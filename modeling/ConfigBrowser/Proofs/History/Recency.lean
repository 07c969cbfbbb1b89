import ConfigBrowser.Proofs.History.Attempts
import Mathlib

/-!
# Lists of the Latest Puts

A list of a history is cut to the limit at every put. What comes of that is the same as if nothing
had ever been cut, and the list of all puts, the latest first and none that has been put again
since, were cut once: an entry that has fallen off the end and is put again goes to the front, as
one that has stayed would.

A removal takes the entries with a value out of one list and leaves the others. It takes them out
whether the change can be saved or not; the answer tells.

## Main results

* `History.entries_putAll`: a list of a history in memory is made of the latest puts.
* `History.remove_fst`: what a removal answers.
* `History.latest_puts_and_removals`: both, with what a removal does to the lists.
-/

namespace ConfigBrowser

namespace History

/-! ### Puts in order -/

/-- The history after puts in order, each an entry with the key of its list. -/
def putAll (h : History) (puts : List (String × HistoryEntry)) : History :=
  puts.foldl (fun h put => (h.put put.1 put.2).2) h

/-- The entries that are put in front of the list with a key, in order. -/
def putsTo (key : String) (puts : List (String × HistoryEntry)) : List HistoryEntry :=
  (puts.filter (·.1 = key)).map (·.2)

/-- Of entries in the order in which they are put, those whose value is not put again later. -/
def lasting : List HistoryEntry → List HistoryEntry
  | [] => []
  | e :: later => if later.any (·.value = e.value) then lasting later else e :: lasting later

/-- The lasting entries are some of the entries, in their order. -/
theorem lasting_sublist (es : List HistoryEntry) : (lasting es).Sublist es := by
  induction es with
  | nil => exact .slnil
  | cons e later ih =>
      rw [lasting]
      split
      · exact ih.cons e
      · exact ih.cons_cons e

/-- An entry that is put last outlasts those with its value. -/
theorem lasting_append_singleton (es : List HistoryEntry) (e : HistoryEntry) :
    lasting (es ++ [e]) = (lasting es).filter (·.value ≠ e.value) ++ [e] := by
  induction es with
  | nil => rfl
  | cons x later ih =>
      rw [List.cons_append, lasting, lasting, ih]
      by_cases hlater : later.any (·.value = x.value) = true
      · simp [hlater]
      · by_cases hsame : e.value = x.value
        · simp [hlater, hsame]
        · simp [hlater, hsame, Ne.symm hsame]

/-- No value lasts twice. -/
theorem occurrences_lasting_le_one (value : String) (es : List HistoryEntry) :
    occurrences value (lasting es) ≤ 1 := by
  induction es with
  | nil => exact Nat.zero_le 1
  | cons e later ih =>
      rw [lasting]
      split
      · exact ih
      · next hlast =>
        rw [occurrences, List.countP_cons]
        split
        · next hvalue =>
          have hnone : (lasting later).countP (·.value = value) = 0 := by
            refine List.countP_eq_zero.2 fun x hx hsame => hlast (List.any_eq_true.2 ⟨x, ?_, ?_⟩)
            · exact (lasting_sublist later).subset hx
            · simp_all
          rw [hnone]
        · exact ih

/-! ### Cutting at every put -/

/-- What is left of a list that is cut before at most one of its members is taken out of it can be
told from the whole list. -/
theorem take_filter_take {α : Type} {p : α → Bool} {l : List α} (n : Nat)
    (hone : l.countP (fun a => !p a) ≤ 1) :
    ((l.take (n + 1)).filter p).take n = (l.filter p).take n := by
  rcases Nat.lt_or_ge n l.length with hlong | hshort
  · -- Of `n + 1` members at least `n` are left, so those behind them are cut anyway.
    have hkept : n ≤ ((l.take (n + 1)).filter p).length := by
      have hlength := List.length_eq_countP_add_countP p (l := l.take (n + 1))
      have hout : (l.take (n + 1)).countP (fun a => !p a) ≤ 1 :=
        (List.take_sublist (n + 1) l).countP_le.trans hone
      rw [List.length_take_of_le hlong] at hlength
      rw [← List.countP_eq_length_filter]
      simp only [Bool.not_eq_true, Bool.decide_eq_false] at hlength
      omega
    calc ((l.take (n + 1)).filter p).take n
        = ((l.take (n + 1)).filter p ++ (l.drop (n + 1)).filter p).take n :=
          (List.take_append_of_le_length hkept).symm
      _ = (l.filter p).take n := by rw [← List.filter_append, List.take_append_drop]
  · rw [List.take_of_length_le (Nat.le_succ_of_le hshort)]

/-- An entry is put in front of a list that has been cut as in front of the whole list. -/
theorem putFront_take {limit : Nat} (hlimit : 0 < limit) {e : HistoryEntry}
    {list : List HistoryEntry} (hone : occurrences e.value list ≤ 1) :
    putFront limit e (list.take limit) = putFront limit e list := by
  obtain ⟨n, rfl⟩ := Nat.exists_eq_add_one.2 hlimit
  have hcount : list.countP (fun x => !decide (x.value ≠ e.value)) ≤ 1 := by
    simpa [occurrences] using hone
  rw [putFront, putFront, List.take_succ_cons, List.take_succ_cons, take_filter_take n hcount]

/-- The last of several puts is put into what the others left. -/
theorem putAll_append_singleton (h : History) (puts : List (String × HistoryEntry))
    (put : String × HistoryEntry) :
    h.putAll (puts ++ [put]) = ((h.putAll puts).put put.1 put.2).2 := by
  rw [putAll, List.foldl_append]
  rfl

/-- Puts leave the limit as it is. -/
theorem limit_putAll (h : History) (puts : List (String × HistoryEntry)) :
    (h.putAll puts).limit = h.limit := by
  induction puts using List.reverseRecOn with
  | nil => rfl
  | append_singleton puts put ih =>
      rw [putAll_append_singleton]
      exact (limit_make _ (.put put.1 put.2)).trans ih

/-- A list of a history in memory is made of the latest puts, the latest first. -/
theorem entries_putAll (limit : Nat) (puts : List (String × HistoryEntry)) (key : String) :
    ((inMemory limit).putAll puts).entries key =
      (lasting (putsTo key puts)).reverse.take (max limit 1) := by
  induction puts using List.reverseRecOn with
  | nil =>
      have hentries : (inMemory limit).entries key = [] := entries_eq_nil_of_initial rfl key
      simp [putAll, putsTo, lasting, hentries]
  | append_singleton puts put ih =>
      have hlimit : ((inMemory limit).putAll puts).limit = max limit 1 := limit_putAll _ puts
      have hput : (((inMemory limit).putAll puts).put put.1 put.2).2.entries key = _ :=
        entries_make _ (.put put.1 put.2) key
      rw [Change.apply, hlimit, ih] at hput
      rw [putAll_append_singleton, hput]
      by_cases hkey : put.1 = key
      · have hone : occurrences put.2.value (lasting (putsTo key puts)).reverse ≤ 1 := by
          rw [occurrences, List.countP_reverse]
          exact occurrences_lasting_le_one _ _
        rw [if_pos hkey, putFront_take (by omega) hone, putFront]
        simp [putsTo, hkey, lasting_append_singleton, List.filter_reverse]
      · simp [putsTo, hkey]

/-! ### Removals -/

/-- Can changes of the history be saved? In memory there is nothing to save. -/
def Savable (h : History) : Prop := ∀ file ∈ h.file, file.access = .granted

instance (h : History) : Decidable h.Savable :=
  match hfile : h.file with
  | none => isTrue (by simp [Savable, hfile])
  | some file => decidable_of_iff (file.access = .granted) (by simp [Savable, hfile])

/-- A changed history is saved exactly if it can be. -/
theorem save_fst_of_dirty {h : History} (hdirty : h.dirty = true) :
    h.save.1 = if h.Savable then .ok () else .error .io := by
  rw [save, if_pos hdirty]
  cases hfile : h.file with
  | none => simp [Savable, hfile]
  | some file =>
      cases haccess : file.access <;> simp [Savable, hfile, HistoryFile.save, haccess]

/-- A removal says whether there was anything to remove, and fails if that cannot be saved. -/
theorem remove_fst (h : History) (key value : String) :
    (h.remove key value).1 =
      if ∃ e ∈ h.entries key, e.value = value then
        if h.Savable then .ok true else .error .io
      else .ok false := by
  have hany : (h.entries key).any (·.value = value) = true ↔
      ∃ e ∈ h.entries key, e.value = value := by simp
  have hsave := save_fst_of_dirty
    (h := h.withList key ((h.entries key).filter (·.value ≠ value))) rfl
  have hsavable : (h.withList key ((h.entries key).filter (·.value ≠ value))).Savable ↔
      h.Savable := Iff.rfl
  rw [remove]
  by_cases hfound : ∃ e ∈ h.entries key, e.value = value
  · rw [if_pos (hany.2 hfound), if_pos hfound]
    dsimp only
    rw [hsave]
    by_cases hcan : h.Savable
    · rw [if_pos (hsavable.2 hcan), if_pos hcan]
      rfl
    · rw [if_neg (hsavable.not.2 hcan), if_neg hcan]
      rfl
  · rw [if_neg (hany.not.2 hfound), if_neg hfound]

/-- What each answer of a removal says. -/
theorem remove_fst_iff (h : History) (key value : String) :
    ((h.remove key value).1 = .ok true ↔
      (∃ e ∈ h.entries key, e.value = value) ∧ h.Savable) ∧
    ((h.remove key value).1 = .error .io ↔
      (∃ e ∈ h.entries key, e.value = value) ∧ ¬ h.Savable) ∧
    ((h.remove key value).1 = .ok false ↔ ∀ e ∈ h.entries key, e.value ≠ value) := by
  have hnone : (∀ e ∈ h.entries key, e.value ≠ value) ↔
      ¬ ∃ e ∈ h.entries key, e.value = value := by simp
  rw [remove_fst, hnone]
  by_cases hfound : ∃ e ∈ h.entries key, e.value = value <;> by_cases hcan : h.Savable <;>
    simp only [hfound, hcan] <;> simp

/-- Every list of a history in memory consists of the latest puts, the latest first, cut to the
limit; a limit of zero counts as one. In any state, a removal answers whether there was an entry
with the value, or fails if there was one and the change cannot be saved. In either case the entries
with the value are gone from the list, the others keep their order, and no other list is changed. -/
theorem latest_puts_and_removals :
    (∀ (limit : Nat) (puts : List (String × HistoryEntry)) (key : String),
      ((inMemory limit).putAll puts).entries key =
        (lasting (putsTo key puts)).reverse.take (max limit 1)) ∧
    ∀ (h : History) (key value : String),
      ((h.remove key value).1 = .ok true ↔
        (∃ e ∈ h.entries key, e.value = value) ∧ h.Savable) ∧
      ((h.remove key value).1 = .error .io ↔
        (∃ e ∈ h.entries key, e.value = value) ∧ ¬ h.Savable) ∧
      ((h.remove key value).1 = .ok false ↔ ∀ e ∈ h.entries key, e.value ≠ value) ∧
      (h.remove key value).2.entries key = (h.entries key).filter (·.value ≠ value) ∧
      ∀ other, other ≠ key → (h.remove key value).2.entries other = h.entries other := by
  refine ⟨entries_putAll, fun h key value => ?_⟩
  have hlists : ∀ other, (h.remove key value).2.entries other =
      if key = other then (h.entries other).filter (·.value ≠ value) else h.entries other :=
    h.entries_make (.remove key value)
  obtain ⟨htrue, herror, hfalse⟩ := h.remove_fst_iff key value
  refine ⟨htrue, herror, hfalse, ?_, fun other hother => ?_⟩
  · rw [hlists, if_pos rfl]
  · rw [hlists, if_neg (Ne.symm hother)]

/-- Three entries are put where there is room for two, and the one that has fallen off is put again.
A removal that cannot be saved takes it out all the same, and leaves the other list. -/
theorem latest_two_of_four_puts :
    let h := (inMemory 2).putAll [("k", ⟨"a", "x", 1⟩), ("k", ⟨"b", "y", 2⟩),
      ("k", ⟨"c", "z", 3⟩), ("k", ⟨"d", "x", 4⟩), ("j", ⟨"e", "x", 5⟩)]
    let g : History := { h with file := some ⟨none, none, .draftRefused⟩ }
    h.entries "k" = [⟨"d", "x", 4⟩, ⟨"c", "z", 3⟩] ∧ (g.remove "k" "x").1 = .error .io ∧
      (g.remove "k" "x").2.entries "k" = [⟨"c", "z", 3⟩] ∧
      (g.remove "k" "x").2.entries "j" = [⟨"e", "x", 5⟩] := by
  intro h g
  obtain ⟨hputs, hremovals⟩ := latest_puts_and_removals
  obtain ⟨-, herror, -, hkept, hother⟩ := hremovals g "k" "x"
  refine ⟨(hputs 2 _ "k").trans (by decide), herror.2 (by decide +kernel), ?_, ?_⟩
  · exact hkept.trans (by decide +kernel)
  · exact (hother "j" (by decide)).trans (by decide +kernel)

/-- A removal that cannot be saved fails although there is an entry with the value. -/
theorem remove_fails_in_lost_folder : ∃ h : History,
    openFile ⟨none, none, .granted⟩ 5 = .ok h ∧
    let g := (h.put "k" ⟨"a", "x", 1⟩).2.within .folderRefused
    (∃ e ∈ g.entries "k", e.value = "x") ∧ (g.remove "k" "x").1 = .error .io ∧
    ¬ ((g.remove "k" "x").1 = .ok true ↔ ∃ e ∈ g.entries "k", e.value = "x") := by
  refine ⟨⟨.initial, 5, by decide, false, some ⟨none, none, .granted⟩⟩, rfl, ?_⟩
  decide +kernel

end History

end ConfigBrowser
