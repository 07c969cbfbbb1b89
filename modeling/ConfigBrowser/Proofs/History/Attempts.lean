import ConfigBrowser.Proofs.History.Changes
import Mathlib

/-!
# Changing a History in Uncertain Surroundings

A history goes through puts and removals, one after the other, and at each of them the surroundings
of its file may treat the save in another way. What a change makes of the lists does not hang on
that: every list is the result of the changes alone, in order.

So the lists tell what they were made from. A history that begins without lists never has one that
is too long, nor one that holds a value twice. A file may bring such lists, since it is read as it
is. A list that is too long stays so until an entry is put in front of it, or until enough of its
entries have been removed; a value that comes twice may do so until it is put or removed.

## Main results

* `History.entries_after`: every list is the result of the changes.
* `History.limit_lt_length_after_iff`: when a list is too long.
* `History.repeated_of_after`: a value that comes twice did so from the beginning, untouched.
* `History.tidy_after_iff`: when all lists are bounded and without repetitions, for good.
-/

namespace ConfigBrowser

namespace History

/-! ### Changes as data -/

/-- A change of a list. -/
inductive Change where
  /-- An entry is put in front of the list with a key. -/
  | put (key : String) (e : HistoryEntry)
  /-- The entries with a value are removed from the list with a key. -/
  | remove (key value : String)
deriving DecidableEq, Repr

/-- A change, and how the surroundings of the file treat its save. -/
structure Attempt where
  change : Change
  access : FileAccess
deriving DecidableEq, Repr

/-- The history in surroundings that treat its file in a certain way. -/
def within (h : History) (access : FileAccess) : History :=
  { h with file := h.file.map fun file => { file with access } }

/-- Makes a change and saves it. The answer says whether there was anything to change. -/
def make (h : History) : Change → Except Error Bool × History
  | .put key e => ((h.put key e).1.map fun _ => true, (h.put key e).2)
  | .remove key value => h.remove key value

/-- Makes a change in the surroundings of the time. -/
def attempt (h : History) (a : Attempt) : Except Error Bool × History :=
  (h.within a.access).make a.change

/-- The history after changes in order. -/
def after (h : History) (as : List Attempt) : History := as.foldl (fun h a => (h.attempt a).2) h

/-- Without changes a history stays as it is. -/
@[simp] theorem after_nil (h : History) : h.after [] = h := rfl

/-- The first of several changes is made first. -/
@[simp] theorem after_cons (h : History) (a : Attempt) (as : List Attempt) :
    h.after (a :: as) = (h.attempt a).2.after as := rfl

/-! ### What changes make of the lists -/

/-- What a change makes of the list with a key. -/
def Change.apply (limit : Nat) (key : String) : Change → List HistoryEntry → List HistoryEntry
  | .put k e, list => if k = key then putFront limit e list else list
  | .remove k value, list => if k = key then list.filter (·.value ≠ value) else list

/-- Saving leaves the limit of the lists. -/
theorem limit_save (h : History) : h.save.2.limit = h.limit := by
  rw [save]
  grind

/-- A change leaves the limit of the lists. -/
theorem limit_make (h : History) (c : Change) : (h.make c).2.limit = h.limit := by
  cases c with
  | put key e => exact limit_save _
  | remove key value =>
      rw [make, remove]
      split
      · exact limit_save _
      · rfl

/-- A change makes of every list what it says. -/
theorem entries_make (h : History) (c : Change) (key : String) :
    (h.make c).2.entries key = c.apply h.limit key (h.entries key) := by
  cases c with
  | put k e =>
      rw [make, Change.apply, entries, put_lists, SortedMap.get?_insert]
      by_cases hkey : key = k
      · rw [if_pos hkey, if_pos hkey.symm, hkey]
        rfl
      · rw [if_neg hkey, if_neg (Ne.symm hkey)]
        rfl
  | remove k value =>
      rw [make, Change.apply, remove]
      split
      · next hany =>
        dsimp only
        rw [entries, save_document, withList, SortedMap.get?_insert]
        by_cases hkey : key = k
        · rw [if_pos hkey, if_pos hkey.symm, hkey]
          rfl
        · rw [if_neg hkey, if_neg (Ne.symm hkey)]
          rfl
      · next hnone =>
        split
        · next hkey =>
          subst hkey
          refine (List.filter_eq_self.2 fun e he => ?_).symm
          have hne : e.value ≠ value := fun heq => hnone (List.any_eq_true.2 ⟨e, he, by simpa⟩)
          simpa using hne
        · rfl

/-- What a change makes of a list does not hang on whether it is saved. -/
theorem entries_attempt (h : History) (a : Attempt) (key : String) :
    (h.attempt a).2.entries key = a.change.apply h.limit key (h.entries key) :=
  (h.within a.access).entries_make a.change key

/-- Changes leave the limit of the lists, whatever becomes of the saves. -/
theorem limit_after (h : History) (as : List Attempt) : (h.after as).limit = h.limit := by
  induction as generalizing h with
  | nil => rfl
  | cons a as ih => rw [after_cons, ih, attempt, limit_make, within]

/-- Every list is the result of the changes. -/
theorem entries_after (h : History) (as : List Attempt) (key : String) :
    (h.after as).entries key =
      as.foldl (fun list a => a.change.apply h.limit key list) (h.entries key) := by
  induction as generalizing h with
  | nil => rfl
  | cons a as ih =>
      have hlimit : (h.attempt a).2.limit = h.limit := h.limit_after [a]
      rw [after_cons, ih, hlimit, entries_attempt, List.foldl_cons]

/-! ### Lists that are too long -/

/-- Does a change put an entry in front of the list with a key? -/
def Change.putsTo (key : String) : Change → Bool
  | .put k _ => k = key
  | .remove .. => false

/-- Does a change remove a value from the list with a key? -/
def Change.removes (key value : String) : Change → Bool
  | .put .. => false
  | .remove k x => k = key ∧ x = value

section Lists

variable {limit : Nat} {key : String} {c : Change} {list : List HistoryEntry}

/-- A list in front of which an entry is put keeps to the limit. -/
theorem length_putFront_le (limit : Nat) (e : HistoryEntry) (list : List HistoryEntry) :
    (putFront limit e list).length ≤ limit :=
  List.length_take_le ..

/-- A put cuts its list to the limit. -/
theorem length_apply_le_of_putsTo (hput : c.putsTo key = true) :
    (c.apply limit key list).length ≤ limit := by
  cases c with
  | put k e =>
      rw [Change.apply, if_pos (of_decide_eq_true hput)]
      exact length_putFront_le limit e list
  | remove k value => cases hput

/-- Any other change leaves the entries that it does not remove. -/
theorem apply_of_not_putsTo (hput : c.putsTo key = false) :
    c.apply limit key list = list.filter fun e => !c.removes key e.value := by
  cases c with
  | put k e =>
      rw [Change.apply, if_neg (of_decide_eq_false hput), eq_comm, List.filter_eq_self]
      simp [Change.removes]
  | remove k value =>
      rw [Change.apply]
      by_cases hkey : k = key
      · simp [Change.removes, hkey, eq_comm]
      · simp [Change.removes, hkey]

/-- No change makes a list too long. -/
theorem length_apply_le (h : list.length ≤ limit) : (c.apply limit key list).length ≤ limit := by
  cases hput : c.putsTo key with
  | true => exact length_apply_le_of_putsTo hput
  | false =>
      rw [apply_of_not_putsTo hput]
      exact (List.length_filter_le _ _).trans h

/-- A list that keeps to the limit does so after any changes. -/
theorem length_foldl_apply_le (as : List Attempt) (h : list.length ≤ limit) :
    (as.foldl (fun list a => a.change.apply limit key list) list).length ≤ limit := by
  induction as generalizing list with
  | nil => exact h
  | cons a as ih => exact ih (length_apply_le h)

/-- Changes that put nothing leave the entries that none of them removes. -/
theorem foldl_apply_of_not_putsTo {as : List Attempt}
    (hput : ∀ a ∈ as, a.change.putsTo key = false) :
    as.foldl (fun list a => a.change.apply limit key list) list =
      list.filter fun e => as.all fun a => !a.change.removes key e.value := by
  induction as generalizing list with
  | nil => simp
  | cons a as ih =>
      obtain ⟨ha, has⟩ := List.forall_mem_cons.1 hput
      rw [List.foldl_cons, ih has, apply_of_not_putsTo ha, List.filter_filter]
      simp only [List.all_cons, Bool.and_comm]

/-- Changes that put something leave no more entries than the limit. -/
theorem length_foldl_apply_le_of_putsTo {as : List Attempt} {a : Attempt} (ha : a ∈ as)
    (hput : a.change.putsTo key = true) :
    (as.foldl (fun list a => a.change.apply limit key list) list).length ≤ limit := by
  obtain ⟨before, after, rfl⟩ := List.append_of_mem ha
  rw [List.foldl_append, List.foldl_cons]
  exact length_foldl_apply_le after (length_apply_le_of_putsTo hput)

end Lists

/-- A list is too long exactly if it began with too many entries that have not been removed, and
nothing has been put in front of it. -/
theorem limit_lt_length_after_iff (h : History) (as : List Attempt) (key : String) :
    h.limit < ((h.after as).entries key).length ↔
      (∀ a ∈ as, a.change.putsTo key = false) ∧
        h.limit < ((h.entries key).filter fun e =>
          as.all fun a => !a.change.removes key e.value).length := by
  rw [entries_after]
  by_cases hput : ∀ a ∈ as, a.change.putsTo key = false
  · rw [foldl_apply_of_not_putsTo hput]
    exact ⟨fun hlong => ⟨hput, hlong⟩, And.right⟩
  · refine iff_of_false (not_lt.2 ?_) fun hnone => hput hnone.1
    obtain ⟨a, ha, hputs⟩ : ∃ a ∈ as, a.change.putsTo key = true := by simpa using hput
    exact length_foldl_apply_le_of_putsTo ha hputs

/-! ### Values that come twice -/

/-- Does a change put or remove a value in the list with a key? -/
def Change.touches (key value : String) : Change → Bool
  | .put k e => k = key ∧ e.value = value
  | .remove k x => k = key ∧ x = value

/-- How often a value comes in a list. -/
def occurrences (value : String) (list : List HistoryEntry) : Nat :=
  list.countP (·.value = value)

section Repetitions

variable {limit : Nat} {key value : String} {c : Change} {list : List HistoryEntry}

/-- A value that is taken out does not occur. -/
theorem occurrences_filter_ne (value : String) (list : List HistoryEntry) :
    occurrences value (list.filter (·.value ≠ value)) = 0 := by
  rw [occurrences, List.countP_eq_zero]
  intro e he
  simpa using (List.mem_filter.1 he).2

/-- Taking entries out makes no value occur more often. -/
theorem occurrences_filter_le (value : String) (p : HistoryEntry → Bool)
    (list : List HistoryEntry) : occurrences value (list.filter p) ≤ occurrences value list :=
  (List.filter_sublist).countP_le

/-- An entry that is put in front is the only one with its value. -/
theorem occurrences_putFront_le_one (limit : Nat) (e : HistoryEntry) (list : List HistoryEntry) :
    occurrences e.value (putFront limit e list) ≤ 1 := by
  have hfront : occurrences e.value (e :: list.filter (·.value ≠ e.value)) = 1 := by
    rw [occurrences, List.countP_cons_of_pos (by simp)]
    exact congrArg (· + 1) (occurrences_filter_ne e.value list)
  rw [← hfront]
  exact (List.take_sublist _ _).countP_le

/-- It leaves no other value more often than it was. -/
theorem occurrences_putFront_le {e : HistoryEntry} (hne : e.value ≠ value) :
    occurrences value (putFront limit e list) ≤ occurrences value list := by
  calc occurrences value (putFront limit e list)
      ≤ occurrences value (e :: list.filter (·.value ≠ e.value)) :=
        (List.take_sublist _ _).countP_le
    _ = occurrences value (list.filter (·.value ≠ e.value)) :=
        List.countP_cons_of_neg (by simpa using hne)
    _ ≤ occurrences value list := occurrences_filter_le value _ list

/-- A value that comes twice after a change did so before, and has not been touched. -/
theorem repeated_of_apply (h : 1 < occurrences value (c.apply limit key list)) :
    c.touches key value = false ∧ 1 < occurrences value list := by
  cases c with
  | put k e =>
      rw [Change.apply] at h
      by_cases hkey : k = key
      · rw [if_pos hkey] at h
        by_cases hvalue : e.value = value
        · subst hvalue
          exact absurd h (not_lt.2 (occurrences_putFront_le_one limit e list))
        · exact ⟨by simp [Change.touches, hvalue], h.trans_le (occurrences_putFront_le hvalue)⟩
      · rw [if_neg hkey] at h
        exact ⟨by simp [Change.touches, hkey], h⟩
  | remove k x =>
      rw [Change.apply] at h
      by_cases hkey : k = key
      · rw [if_pos hkey] at h
        by_cases hvalue : x = value
        · subst hvalue
          rw [occurrences_filter_ne] at h
          exact absurd h (by decide)
        · exact ⟨by simp [Change.touches, hvalue], h.trans_le (occurrences_filter_le value _ list)⟩
      · rw [if_neg hkey] at h
        exact ⟨by simp [Change.touches, hkey], h⟩

/-- A value that occurs twice after changes did so before, and none of them touched it. -/
theorem repeated_of_foldl_apply {as : List Attempt}
    (h : 1 < occurrences value (as.foldl (fun list a => a.change.apply limit key list) list)) :
    (∀ a ∈ as, a.change.touches key value = false) ∧ 1 < occurrences value list := by
  induction as generalizing list with
  | nil => exact ⟨by simp, h⟩
  | cons a as ih =>
      obtain ⟨hrest, hmid⟩ := ih h
      obtain ⟨hfirst, hlist⟩ := repeated_of_apply hmid
      exact ⟨List.forall_mem_cons.2 ⟨hfirst, hrest⟩, hlist⟩

end Repetitions

/-- A value that comes twice did so from the beginning, and has neither been put nor removed. -/
theorem repeated_of_after {h : History} {as : List Attempt} {key value : String}
    (hrepeated : 1 < occurrences value ((h.after as).entries key)) :
    (∀ a ∈ as, a.change.touches key value = false) ∧ 1 < occurrences value (h.entries key) := by
  rw [entries_after] at hrepeated
  exact repeated_of_foldl_apply hrepeated

/-! ### Lists in order -/

/-- A list that is bounded and without repetitions. -/
structure Tidy (limit : Nat) (list : List HistoryEntry) : Prop where
  bounded : list.length ≤ limit
  distinct : (list.map (·.value)).Nodup

/-- A list without entries is tidy. -/
theorem tidy_nil (limit : Nat) : Tidy limit [] := ⟨Nat.zero_le limit, .nil⟩

/-- A list is tidy if it keeps to the limit and no value occurs twice in it. -/
theorem tidy_iff {limit : Nat} {list : List HistoryEntry} :
    Tidy limit list ↔ list.length ≤ limit ∧ ∀ value, occurrences value list ≤ 1 := by
  have hcount (value : String) : (list.map (·.value)).count value = occurrences value list := by
    rw [List.count, List.countP_map, occurrences]
    exact List.countP_congr fun e _ => by simp
  constructor
  · rintro ⟨hbounded, hdistinct⟩
    exact ⟨hbounded, fun value => hcount value ▸ List.nodup_iff_count_le_one.1 hdistinct value⟩
  · rintro ⟨hbounded, honce⟩
    exact ⟨hbounded, List.nodup_iff_count_le_one.2 fun value =>
      (hcount value).trans_le (honce value)⟩

/-- A list that is in order stays so. -/
theorem tidy_after {h : History} {key : String} (htidy : Tidy h.limit (h.entries key))
    (as : List Attempt) : Tidy h.limit ((h.after as).entries key) := by
  obtain ⟨hbounded, honce⟩ := tidy_iff.1 htidy
  refine tidy_iff.2 ⟨?_, fun value => not_lt.1 fun hrepeated => ?_⟩
  · rw [entries_after]
    exact length_foldl_apply_le as hbounded
  · exact absurd (repeated_of_after hrepeated).2 (not_lt.2 (honce value))

/-! ### Opening a file -/

end History

/-- Does a file hold a document? A file that is not there holds the one without lists. -/
def HistoryFile.Holds (file : HistoryFile) (d : HistoryDocument) : Prop :=
  match file.text with
  | none => d = .initial
  | some text => HistoryDocument.ofText? text = some d

/-- A file holds the document of its text, and without a text that of a new history. -/
theorem HistoryFile.holds_iff {file : HistoryFile} {d : HistoryDocument} :
    file.Holds d ↔ file.text = none ∧ d = .initial ∨
      ∃ text, file.text = some text ∧ HistoryDocument.ofText? text = some d := by
  rw [Holds]
  cases file.text <;> simp

namespace History

/-- A history is opened with what its file holds. Nothing is made of the lists. -/
theorem openFile_eq_ok_iff {file : HistoryFile} {limit : Nat} {h : History} :
    openFile file limit = .ok h ↔ file.access ≠ .folderRefused ∧ h.limit = max limit 1 ∧
      h.dirty = false ∧ h.file = some file ∧ file.Holds h.document := by
  obtain ⟨document, hlimit, hpos, dirty, kept⟩ := h
  rw [openFile, HistoryFile.Holds]
  split
  · next hrefused => simp [hrefused]
  · next haccess =>
    have heq : ∀ read : HistoryDocument,
        (Except.ok (⟨read, max limit 1, by omega, false, some file⟩ : History) : Except Error _) =
            .ok ⟨document, hlimit, hpos, dirty, kept⟩ ↔
          hlimit = max limit 1 ∧ dirty = false ∧ kept = some file ∧ read = document := by
      intro read
      simp only [Except.ok.injEq, History.mk.injEq, @eq_comm _ hlimit, @eq_comm _ dirty,
        @eq_comm _ kept]
      tauto
    cases file.text with
    | none => simp [haccess, heq, @eq_comm _ document]
    | some text =>
        cases hread : HistoryDocument.ofText? text with
        | none => simp [hread]
        | some read => simp [haccess, heq, hread]

/-- A new history has no entries. -/
theorem entries_eq_nil_of_initial {h : History} (hdocument : h.document = .initial) (key : String) :
    h.entries key = [] := by
  rw [entries, hdocument]
  rfl

/-- All lists of a history in memory are bounded and without repetitions, whatever changes are made.
Those of a history that has been opened are so for good exactly if all lists of the file are. A list
that the file brings too long stays so while nothing is put in front of it and too few entries are
removed, and a value that comes twice comes twice in the file and has not been put or removed. -/
theorem tidy_after_iff (limit : Nat) :
    (∀ as key, Tidy (max limit 1) (((inMemory limit).after as).entries key)) ∧
    ∀ file h, openFile file limit = .ok h →
      ((∀ as key, Tidy (max limit 1) ((h.after as).entries key)) ↔
        ∀ text document key list, file.text = some text →
          HistoryDocument.ofText? text = some document →
          document.lists.get? key = some list → Tidy (max limit 1) list) ∧
      ∀ as key,
        (max limit 1 < ((h.after as).entries key).length ↔
          (∀ a ∈ as, a.change.putsTo key = false) ∧
            max limit 1 < ((h.entries key).filter fun e =>
              as.all fun a => !a.change.removes key e.value).length) ∧
        ∀ value, 1 < occurrences value ((h.after as).entries key) →
          (∀ a ∈ as, a.change.touches key value = false) ∧
            1 < occurrences value (h.entries key) := by
  refine ⟨fun as key => tidy_after (h := inMemory limit) (tidy_nil _) as, fun file h hopen => ?_⟩
  obtain ⟨-, hlimit, -, -, hdocument⟩ := openFile_eq_ok_iff.1 hopen
  refine ⟨⟨fun htidy text document key list htext hread hlist => ?_, fun hfile as key => ?_⟩,
    fun as key => ⟨hlimit ▸ h.limit_lt_length_after_iff as key, fun value => repeated_of_after⟩⟩
  · have hsame : h.document = document := by
      rw [HistoryFile.Holds, htext] at hdocument
      exact Option.some.inj (hdocument.symm.trans hread)
    have hlists : h.entries key = list := by rw [entries, hsame, hlist, Option.getD_some]
    exact hlists ▸ htidy [] key
  · refine hlimit ▸ tidy_after ?_ as
    rw [hlimit]
    rcases HistoryFile.holds_iff.1 hdocument with ⟨-, hinitial⟩ | ⟨text, htext, hread⟩
    · rw [entries_eq_nil_of_initial hinitial]
      exact tidy_nil _
    · rw [entries]
      cases hlist : h.document.lists.get? key with
      | none => exact tidy_nil _
      | some list => exact hfile text _ key list htext hread hlist

/-- A file with a list of two entries is opened with a limit of one. The list stays too long when
another value is removed, and a put cuts it. -/
theorem untidy_file_of_two_entries : ∃ (file : HistoryFile) (h : History),
    openFile file 1 = .ok h ∧
    max 1 1 < ((h.after [⟨.remove "k" "c", .granted⟩]).entries "k").length ∧
    ¬ (∀ as key, Tidy (max 1 1) ((h.after as).entries key)) ∧
    Tidy 1 ((h.after [⟨.put "k" ⟨"c", "c", 0⟩, .granted⟩]).entries "k") := by
  let list : List HistoryEntry := [⟨"a", "a", 0⟩, ⟨"b", "b", 0⟩]
  let document : HistoryDocument := ⟨1, SortedMap.empty.insert "k" list⟩
  let file : HistoryFile := ⟨some document.text, none, .granted⟩
  let h : History := ⟨document, 1, by decide, false, some file⟩
  have hread : HistoryDocument.ofText? document.text = some document := by decide +kernel
  have hopen : openFile file 1 = .ok h :=
    openFile_eq_ok_iff.2 ⟨by decide, rfl, rfl, rfl, hread⟩
  obtain ⟨hfile, hlong⟩ := (tidy_after_iff 1).2 file h hopen
  refine ⟨file, h, hopen, (hlong _ "k").1.2 ⟨by decide +kernel, by decide +kernel⟩, fun htidy => ?_,
    by decide +kernel, by decide +kernel⟩
  have hlist := hfile.1 htidy document.text document "k" list rfl hread (by decide +kernel)
  exact absurd hlist.bounded (by decide)

end History

end ConfigBrowser
