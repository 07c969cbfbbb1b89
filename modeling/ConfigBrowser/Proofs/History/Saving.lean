import ConfigBrowser.Proofs.History.Attempts
import ConfigBrowser.Proofs.History.Document
import Mathlib

/-!
# What the File of a History Holds

A save writes the whole document or leaves the file as it was, and the history is dirty while a
change has not been written. So the file holds what was written last, or what it began with, and a
history that is not dirty is the one that its file would be opened as. A history that could be saved
when it was given up is found again.

## Main results

* `History.outcome_attempt`: a change is saved, or fails to be, or is none.
* `History.Mirrored.attempt`, `History.Mirrored.after`: what the file holds, after one change and
  after any number of them.
* `History.found_again`: the same for a history that has been opened, and how it is opened again.
-/

namespace ConfigBrowser

namespace History

/-! ### One save -/

/-- In other surroundings the file is the same but for the access to it. -/
theorem file_within {g : History} {file : HistoryFile} (hfile : g.file = some file)
    (access : FileAccess) : (g.within access).file = some { file with access } := by
  rw [within, hfile, Option.map_some]

/-- A history that is saved already is not saved again. -/
theorem save_of_clean {g : History} (hclean : g.dirty = false) : g.save = (.ok (), g) := by
  rw [save, hclean]
  rfl

/-- A save of changes writes the document, or leaves the text of the file. -/
theorem save_of_dirty {g : History} {file : HistoryFile} (hfile : g.file = some file)
    (hdirty : g.dirty = true) : ∃ kept, g.save.2.file = some kept ∧
      (g.save.1 = .ok () ∧ g.save.2.dirty = false ∧ kept.text = some g.document.text ∨
        g.save.1 = .error .io ∧ g.save.2.dirty = true ∧ kept.text = file.text) := by
  have htext := file.save_text g.document.text
  rw [save, if_pos hdirty, hfile]
  cases hsaved : (file.save g.document.text).1 with
  | true =>
      rw [hsaved] at htext
      exact ⟨_, by simp [hsaved], .inl ⟨by simp [hsaved], by simp [hsaved], htext⟩⟩
  | false =>
      rw [hsaved] at htext
      exact ⟨_, by simp [hsaved], .inr ⟨by simp [hsaved], by simp [hsaved, hdirty], htext⟩⟩

/-- A save that succeeds leaves nothing unsaved. -/
theorem dirty_save {g : History} (hsaved : g.save.1 = .ok ()) : g.save.2.dirty = false := by
  cases hdirty : g.dirty with
  | false => rw [save_of_clean hdirty, hdirty]
  | true =>
      cases hfile : g.file with
      | none => rw [save_of_file_eq_none hfile]
      | some file =>
          obtain ⟨_, -, ⟨-, hclean, -⟩ | ⟨hfailed, -⟩⟩ := save_of_dirty hfile hdirty
          · exact hclean
          · cases hfailed.symm.trans hsaved

/-- An entry that has been put and saved leaves nothing to save. -/
theorem dirty_put {g : History} {key : String} {e : HistoryEntry}
    (hsaved : (g.put key e).1 = .ok ()) : (g.put key e).2.dirty = false :=
  dirty_save hsaved

/-- A value that has been removed and saved leaves nothing to save. -/
theorem dirty_remove {g : History} {key value : String}
    (hsaved : (g.remove key value).1 = .ok true) : (g.remove key value).2.dirty = false := by
  rw [remove] at hsaved ⊢
  split at hsaved
  · next hany =>
    rw [if_pos hany]
    refine dirty_save ?_
    cases hsave : (g.withList key ((g.entries key).filter (·.value ≠ value))).save.1 with
    | error e =>
        simp only [hsave] at hsaved
        cases hsaved
    | ok => rfl
  · cases hsaved

/-! ### One change -/

/-- What is written to the file by an attempt: the document with the change, if that is saved. -/
def written (g : History) (a : Attempt) : Option String :=
  match (g.attempt a).1 with
  | .ok true => some (g.attempt a).2.document.text
  | _ => none

/-- What comes of a change where the file has a text. -/
inductive Outcome (g : History) (access : FileAccess) (text : Option String) :
    Except Error Bool × History → Prop where
  /-- It is saved: the document has been written. -/
  | saved {changed : History} {kept : HistoryFile} (hfile : changed.file = some kept)
      (hclean : changed.dirty = false) (htext : kept.text = some changed.document.text) :
      Outcome g access text (.ok true, changed)
  /-- It fails to be saved: the file has the same text. -/
  | failed {changed : History} {kept : HistoryFile} (hfile : changed.file = some kept)
      (hdirty : changed.dirty = true) (htext : kept.text = text) :
      Outcome g access text (.error .io, changed)
  /-- There is nothing to change. -/
  | idle : Outcome g access text (.ok false, g.within access)

/-- Whatever list is put in place of another, the history is saved with it. -/
theorem outcome_save {g : History} {access : FileAccess} {file : HistoryFile}
    (hfile : g.file = some file) (key : String) (list : List HistoryEntry) :
    let changed := (g.within access).withList key list
    Outcome g access file.text (changed.save.1.map fun _ => true, changed.save.2) := by
  intro changed
  have hwithin : changed.file = some { file with access } := file_within hfile access
  obtain ⟨kept, hkept, ⟨hok, hclean, htext⟩ | ⟨herror, hdirty, htext⟩⟩ := save_of_dirty hwithin rfl
  · rw [hok]
    exact .saved hkept hclean (by rw [htext, save_document])
  · rw [herror]
    exact .failed hkept hdirty htext

/-- A change of a history with a file is saved, or fails to be, or there is nothing to change. -/
theorem outcome_attempt {g : History} {file : HistoryFile} (hfile : g.file = some file)
    (a : Attempt) : Outcome g a.access file.text (g.attempt a) := by
  obtain ⟨change, access⟩ := a
  cases change with
  | put key e => exact outcome_save hfile key _
  | remove key value =>
      rw [attempt, make, remove]
      split
      · exact outcome_save hfile key _
      · exact .idle

/-! ### Sizes -/

/-- Does a change bring a time of 64 bits? -/
def Change.Dated : Change → Prop
  | .put _ e => e.Dated
  | .remove .. => True

instance (c : Change) : Decidable c.Dated :=
  match c with
  | .put _ e => inferInstanceAs (Decidable e.Dated)
  | .remove .. => isTrue trivial

/-- Saving leaves the version of the document. -/
theorem version_save (h : History) : h.save.2.document.version = h.document.version := by
  rw [save_document]

/-- A change leaves the version of the document. -/
theorem version_make (h : History) (c : Change) :
    (h.make c).2.document.version = h.document.version := by
  cases c with
  | put key e => exact version_save _
  | remove key value =>
      rw [make, remove]
      split
      · exact version_save _
      · rfl

/-- An entry that is in a list after a change was there before, or has been put. -/
theorem mem_apply {limit : Nat} {key : String} {c : Change} {list : List HistoryEntry}
    {e : HistoryEntry} (he : e ∈ c.apply limit key list) : e ∈ list ∨ c = .put key e := by
  cases c with
  | put k x =>
      rw [Change.apply] at he
      split at he
      · next hkey =>
        rcases List.mem_cons.1 (List.mem_of_mem_take he) with rfl | hrest
        · exact .inr (hkey ▸ rfl)
        · exact .inl (List.mem_of_mem_filter hrest)
      · exact .inl he
  | remove k value =>
      rw [Change.apply] at he
      split at he
      · exact .inl (List.mem_of_mem_filter he)
      · exact .inl he

/-- The dates of all lists are those of the entries under all keys. -/
theorem dated_iff {h : History} :
    (∀ key list, h.document.lists.get? key = some list → ∀ e ∈ list, e.Dated) ↔
      ∀ key, ∀ e ∈ h.entries key, e.Dated := by
  constructor
  · intro hdated key
    rw [entries]
    cases hlist : h.document.lists.get? key with
    | none => simp
    | some list => exact hdated key list hlist
  · intro hdated key list hlist
    have hentries := hdated key
    rwa [entries, hlist] at hentries

/-- The numbers of a document keep to their sizes. -/
theorem wellSized_attempt {g : History} {a : Attempt} (hsized : g.document.WellSized)
    (hdated : a.change.Dated) : (g.attempt a).2.document.WellSized := by
  refine ⟨(version_make _ _).trans_lt hsized.version_lt, dated_iff.2 fun key e he => ?_⟩
  rw [entries_attempt] at he
  rcases mem_apply he with hbefore | hput
  · exact dated_iff.1 hsized.dated key e hbefore
  · rw [hput] at hdated
    exact hdated

/-! ### Any number of changes -/

/-- The history has a file with the text. It holds the document, unless a change is unsaved. -/
structure Mirrored (g : History) (text : Option String) : Prop where
  wellSized : g.document.WellSized
  file : ∃ kept, g.file = some kept ∧ kept.text = text ∧ (g.dirty = false → kept.Holds g.document)

/-- An attempt leaves the file with what it has written, or else with its text. -/
theorem Mirrored.attempt {g : History} {text : Option String} (hg : g.Mirrored text) {a : Attempt}
    (hdated : a.change.Dated) : (g.attempt a).2.Mirrored ((g.written a).or text) := by
  have hsized := wellSized_attempt hg.wellSized hdated
  obtain ⟨file, hfile, rfl, hholds⟩ := hg.file
  have houtcome := outcome_attempt hfile a
  rw [written]
  generalize g.attempt a = made at hsized houtcome
  refine ⟨hsized, ?_⟩
  cases houtcome with
  | @saved _ kept hkept hclean htext =>
      refine ⟨kept, hkept, htext, fun _ => ?_⟩
      rw [HistoryFile.Holds, htext]
      exact HistoryDocument.ofText?_text hsized
  | @failed _ kept hkept hdirty htext =>
      refine ⟨kept, hkept, htext, fun hclean => ?_⟩
      cases hdirty.symm.trans hclean
  | idle => exact ⟨_, file_within hfile a.access, rfl, hholds⟩

/-- What is written to the file by attempts, in order. -/
def writes (g : History) : List Attempt → List String
  | [] => []
  | a :: as => (g.written a).toList ++ writes (g.attempt a).2 as

/-- What a file holds after changes is what was written last, if anything was. -/
theorem Mirrored.after {g : History} {text : Option String} (hg : g.Mirrored text)
    {as : List Attempt} (hdated : ∀ a ∈ as, a.change.Dated) :
    (g.after as).Mirrored ((g.writes as).getLast?.or text) := by
  induction as generalizing g text with
  | nil => exact hg
  | cons a as ih =>
      obtain ⟨ha, has⟩ := List.forall_mem_cons.1 hdated
      rw [writes, List.getLast?_append, Option.or_assoc]
      have hlast : (g.written a).toList.getLast? = g.written a := by
        cases g.written a <;> rfl
      rw [hlast]
      exact ih (hg.attempt ha) has

/-- A history that has just been opened mirrors its file. -/
theorem mirrored_of_openFile {file : HistoryFile} {limit : Nat} {h : History}
    (hopen : openFile file limit = .ok h) : h.Mirrored file.text := by
  obtain ⟨-, -, -, hfile, hholds⟩ := openFile_eq_ok_iff.1 hopen
  refine ⟨?_, file, hfile, rfl, fun _ => hholds⟩
  rcases HistoryFile.holds_iff.1 hholds with ⟨-, hinitial⟩ | ⟨text, -, hread⟩
  · rw [hinitial]
    exact HistoryDocument.wellSized_initial
  · exact HistoryDocument.wellSized_of_ofText? hread

/-! ### Giving a history up -/

/-- A history that has been saved when it was given up is in its file. -/
theorem Mirrored.close {g : History} {text : Option String} (hg : g.Mirrored text)
    {access : FileAccess} (hsaved : (g.within access).save.1 = .ok ()) :
    ∃ closed, (g.within access).close.file = some closed ∧ closed.Holds g.document := by
  obtain ⟨file, hfile, -, hholds⟩ := hg.file
  have hwithin := file_within hfile access
  rw [History.close]
  cases hdirty : g.dirty with
  | false =>
      rw [save_of_clean (g := g.within access) hdirty]
      exact ⟨_, hwithin, hholds hdirty⟩
  | true =>
      obtain ⟨closed, hclosed, ⟨-, -, htext⟩ | ⟨hfailed, -⟩⟩ :=
        save_of_dirty (g := g.within access) hwithin hdirty
      · refine ⟨closed, hclosed, ?_⟩
        rw [HistoryFile.Holds, htext]
        exact HistoryDocument.ofText?_text hg.wellSized
      · cases hfailed.symm.trans hsaved

/-- A document that a file holds is found when the file is opened. -/
theorem exists_openFile {file : HistoryFile} {d : HistoryDocument} (hholds : file.Holds d)
    (haccess : file.access ≠ .folderRefused) (limit : Nat) :
    ∃ h, openFile file limit = .ok h ∧ h.document = d :=
  ⟨⟨d, max limit 1, by omega, false, some file⟩,
    openFile_eq_ok_iff.2 ⟨haccess, rfl, rfl, rfl, hholds⟩, rfl⟩

/-- After any changes of a history that has been opened, whichever of them could be saved, the file
has the text that was written last, or else the one it began with. Unless a change is unsaved it
holds the document of the history, or there are no lists and no file. A put that succeeds and a
removal that says that it removed something leave nothing unsaved. And a history that is given up
with nothing unsaved, or is saved then, is found again with all its entries, whatever the limit. -/
theorem found_again {file : HistoryFile} {limit : Nat} {h : History}
    (hopen : openFile file limit = .ok h) {as : List Attempt}
    (hdated : ∀ a ∈ as, a.change.Dated) :
    (∃ kept, (h.after as).file = some kept ∧ kept.text = (h.writes as).getLast?.or file.text ∧
      ((h.after as).dirty = false → kept.Holds (h.after as).document)) ∧
    (∀ access key,
      (∀ e, (((h.after as).within access).put key e).1 = .ok () →
        (((h.after as).within access).put key e).2.dirty = false) ∧
      ∀ value, (((h.after as).within access).remove key value).1 = .ok true →
        (((h.after as).within access).remove key value).2.dirty = false) ∧
    ∀ access, (h.after as).dirty = false ∨ ((h.after as).within access).save.1 = .ok () →
      ∃ closed, ((h.after as).within access).close.file = some closed ∧
        ∀ later limit', later ≠ .folderRefused →
          ∃ reopened, openFile { closed with access := later } limit' = .ok reopened ∧
            ∀ key, reopened.entries key = (h.after as).entries key := by
  have hmirrored := (mirrored_of_openFile hopen).after hdated
  refine ⟨hmirrored.file, fun access key => ⟨fun e => dirty_put, fun value => dirty_remove⟩,
    fun access hend => ?_⟩
  have hsaved : ((h.after as).within access).save.1 = .ok () := by
    rcases hend with hclean | hsaved
    · rw [save_of_clean (g := (h.after as).within access) hclean]
    · exact hsaved
  obtain ⟨closed, hclosed, hholds⟩ := hmirrored.close hsaved
  refine ⟨closed, hclosed, fun later limit' hlater => ?_⟩
  have hlaterHolds : HistoryFile.Holds { closed with access := later } (h.after as).document :=
    hholds
  obtain ⟨reopened, hreopened, hdocument⟩ := exists_openFile hlaterHolds hlater limit'
  exact ⟨reopened, hreopened, fun key => by rw [entries, entries, hdocument]⟩

/-- An entry is put whose save fails at the draft, a removal finds nothing, another entry is put
whose save fails at the file, and a third is saved. -/
theorem found_again_after_refusals : ∃ (h : History) (as : List Attempt) (text : String),
    openFile ⟨none, none, .granted⟩ 5 = .ok h ∧ (∀ a ∈ as, a.change.Dated) ∧
    (h.after (as.take 3)).dirty = true ∧ h.writes (as.take 3) = [] ∧ h.writes as = [text] ∧
    (∃ kept, (h.after as).file = some kept ∧ kept.text = some text ∧
      HistoryDocument.ofText? text = some (h.after as).document) ∧
    ∃ closed reopened, ((h.after as).within .draftRefused).close.file = some closed ∧
      openFile { closed with access := .granted } 1 = .ok reopened ∧
      reopened.entries "k" = [⟨"c", "c", 3⟩, ⟨"b", "b", 2⟩, ⟨"a", "a", 1⟩] := by
  let h : History := ⟨.initial, 5, by decide, false, some ⟨none, none, .granted⟩⟩
  let as : List Attempt :=
    [⟨.put "k" ⟨"a", "a", 1⟩, .draftRefused⟩, ⟨.remove "k" "x", .granted⟩,
      ⟨.put "k" ⟨"b", "b", 2⟩, .renameRefused⟩, ⟨.put "k" ⟨"c", "c", 3⟩, .granted⟩]
  have hopen : openFile ⟨none, none, .granted⟩ 5 = .ok h := rfl
  have hdated : ∀ a ∈ as, a.change.Dated := by decide
  have hclean : (h.after as).dirty = false := by decide +kernel
  have hwrites : h.writes as = [(h.after as).document.text] := by decide +kernel
  obtain ⟨⟨kept, hkept, htext, hholds⟩, -, hend⟩ := found_again hopen hdated
  rw [hwrites] at htext
  obtain ⟨closed, hclosed, hreopen⟩ := hend .draftRefused (.inl hclean)
  obtain ⟨reopened, hreopened, hentries⟩ := hreopen .granted 1 (by decide)
  have hread := hholds hclean
  rw [HistoryFile.Holds, htext] at hread
  exact ⟨h, as, _, hopen, hdated, by decide +kernel, by decide +kernel, hwrites,
    ⟨kept, hkept, htext, hread⟩, closed, reopened, hclosed, hreopened,
    (hentries "k").trans (by decide +kernel)⟩

end History

end ConfigBrowser
