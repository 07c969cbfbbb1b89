import ConfigBrowser.Proofs.Log.Backups

/-!
# Writing to a Rotating Log

A writer that has the log to itself keeps in the folder what the chronicle of its writes says: the
volumes that survive as backups, and the current file. A write succeeds whenever the names of the
files are names that the folder can have, so whether it does depends on the moments and the sizes of
what is written, as do the names of the backups.

## Main results

* `Holds.write`, `Holds.write_eq_none`: what one write does to files that hold a chronicle, and when
  it fails.
* `exists_writeAll`, `holds_of_writeAll`: when a run of writes succeeds, and what it leaves.
* `keeps_end_iff`: when the backups and the current file hold the end of everything written.
-/

namespace ConfigBrowser.LogFile

open Log

/-! ### Runs -/

/-- Writes a portion, if that succeeds. -/
def write? (l : LogFile) (d : Folder) (p : Portion UInt8) : Option (LogFile × Folder) :=
  match l.write d p.time p.bytes with
  | (.ok _, written) => some written
  | (.error _, _) => none

/-- Writes portions one after the other, if all writes succeed. -/
def writeAll (l : LogFile) (d : Folder) : List (Portion UInt8) → Option (LogFile × Folder)
  | [] => some (l, d)
  | p :: rest => (write? l d p).bind fun written => writeAll written.1 written.2 rest

/-- Is every portion written after those in front of it? The clock may show the same seconds. -/
def InOrder (portions : List (Portion UInt8)) : Prop :=
  portions.Pairwise fun p q => p.time.Before q.time

/-- What the backups and the file of a log hold, the oldest backup first. -/
def kept (d : Folder) (name : String) : List UInt8 :=
  ((backups d name).reverse ++ [name]).flatMap d.bytesOf

/-- Were all files changed before a moment? -/
def AllBefore (d : Folder) (now : Moment) : Prop :=
  ∀ n f, d.file? n = some f → f.modified.Before now

/-- Was no file changed after a moment? -/
def NoneAfter (d : Folder) (now : Moment) : Prop :=
  ∀ n f, d.file? n = some f → f.modified = now ∨ f.modified.Before now

/-- A folder whose files are all older than a moment has none that is newer. -/
theorem AllBefore.noneAfter {d : Folder} {now : Moment} (h : AllBefore d now) : NoneAfter d now :=
  fun n f hf => .inr (h n f hf)

/-- Files that are not newer than a moment are older than every later one. -/
theorem NoneAfter.allBefore {d : Folder} {now later : Moment} (h : NoneAfter d now)
    (hlater : now.Before later) : AllBefore d later := fun n f hf => by
  rcases h n f hf with heq | hbefore
  · exact heq ▸ hlater
  · exact hbefore.trans hlater

/-- A file that is changed now is not newer than now. -/
theorem NoneAfter.of_current {d d' : Folder} {now : Moment} {name : String} {f : File}
    (h : NoneAfter d now) (hfile : ∀ n, d'.file? n = if n = name then some f else d.file? n)
    (hf : f.modified = now) : NoneAfter d' now := fun n f' hf' => by
  rw [hfile] at hf'
  split at hf'
  · cases hf'
    exact .inl hf
  · exact h n f' hf'

/-- Can the folder have files of these names: that of the log, and those that its volumes got? -/
structure Nameable (name : String) (g : Chronicle UInt8) : Prop where
  log : isFileName name = true
  backup {stamp : Int} : stamp ∈ g.stamps → isFileName (backupName name stamp) = true

/-- Names that a folder can have after writing could be had before. -/
theorem Nameable.of_after {name : String} {g : Chronicle UInt8} {portions : List (Portion UInt8)}
    (h : Nameable name (g.after portions)) : Nameable name g where
  log := h.log
  backup hstamp := h.backup (((g.volumes_isSuffix_after portions).map _).subset hstamp)

/-! ### One write -/

/-- Do the files hold a chronicle, with the writer ready to go on? -/
structure Holds (name : String) (l : LogFile) (d : Folder) (g : Chronicle UInt8) : Prop where
  named : l.name = name
  opened : l.opened = d.find? name
  backups : KeepsVolumes d name (survivors g.volumes)
  current : d.bytesOf name = g.current
  newest {n : String} : (d.file? name).isSome = true → n ∈ backupNames name (survivors g.volumes) →
    (changed d n).Before (changed d name)
  named_log : (d.file? name).isSome = true → isFileName name = true
  named_backup {stamp : Int} : stamp ∈ g.stamps → isFileName (backupName name stamp) = true

namespace Holds

variable {name : String} {l : LogFile} {d : Folder} {g : Chronicle UInt8}

/-- The file is full exactly if the current part of the chronicle is. -/
theorem isFull_iff (h : Holds name l d g) :
    isFull d name = true ↔ sizeLimit < g.current.length := by
  rw [← h.current, isFull, Folder.bytesOf]
  cases d.file? name with
  | none => simp
  | some f => simp [File.size_eq_length]

/-- A full file is there. -/
theorem exists_place (h : Holds name l d g) (hfull : sizeLimit < g.current.length) :
    ∃ place, d.find? name = some place := by
  cases hfind : d.find? name with
  | some place => exact ⟨place, rfl⟩
  | none =>
    have hempty : g.current = [] := by
      rw [← h.current]
      simp [Folder.bytesOf, Folder.file?, hfind]
    simp [hempty] at hfull

/-- Rotating begins a new file if that is due and the names allow it. -/
theorem rotate (h : Holds name l d g) {stamp : Int}
    (hstamp : ∀ s ∈ (g.rotated stamp).stamps, isFileName (backupName name s) = true) :
    ∃ l' d', l.rotate d stamp = (some d', l') ∧ Holds name l' d' (g.rotated stamp) ∧
      ∀ now, AllBefore d now → AllBefore d' now := by
  by_cases hfull : sizeLimit < g.current.length
  · rw [Chronicle.rotated_of_full hfull] at hstamp ⊢
    obtain ⟨place, hplace⟩ := h.exists_place hfull
    have hsome : (d.file? name).isSome = true := by simp [h.backups.sound.file?_isSome, hplace]
    have hkeeps := (h.backups.rename hplace (fun n hn => h.newest hsome hn) stamp).prune
    have hnone := file?_prune_rename_self hplace stamp
    refine ⟨{ l with opened := none }, prune (d.rename name (backupName name stamp)) name,
      ?_, ?_, ?_⟩
    · have hname := hstamp _ List.mem_cons_self
      simp only [LogFile.rotate, h.named, h.isFull_iff.2 hfull, hname, if_true]
    -- The new file is made when it is opened, so there is none yet.
    · exact {
        named := h.named
        opened := ((hkeeps.sound.find?_eq_none_iff name).2 hnone).symm
        backups := h.current ▸ hkeeps
        current := by simp [Folder.bytesOf, hnone]
        newest := by simp [hnone]
        named_log := by simp [hnone]
        named_backup := hstamp _ }
    · intro now hbefore n f hf
      obtain ⟨n', hn'⟩ := exists_file?_of_file?_prune_rename hplace hf
      exact hbefore n' f hn'
  · have hnot : isFull d l.name = false := by
      rw [h.named, Bool.eq_false_iff, ne_eq, h.isFull_iff]
      exact hfull
    rw [Chronicle.rotated_of_not_full hfull]
    exact ⟨l, d, by simp [LogFile.rotate, hnot], h, fun _ hbefore => hbefore⟩

/-- Rotating fails otherwise. -/
theorem rotate_eq_none (h : Holds name l d g) {stamp : Int}
    (hstamp : ¬ ∀ s ∈ (g.rotated stamp).stamps, isFileName (backupName name s) = true) :
    ∃ l', l.rotate d stamp = (none, l') := by
  by_cases hfull : sizeLimit < g.current.length
  · have hname : isFileName (backupName name stamp) = false := by
      rw [Chronicle.rotated_of_full hfull, Chronicle.stamps, List.map_cons,
        List.forall_mem_cons] at hstamp
      exact Bool.eq_false_iff.2 fun hname => hstamp ⟨hname, fun s hs => h.named_backup hs⟩
    exact ⟨{ l with opened := none }, by
      simp [LogFile.rotate, h.named, h.isFull_iff.2 hfull, hname]⟩
  · rw [Chronicle.rotated_of_not_full hfull] at hstamp
    exact absurd (fun s hs => h.named_backup hs) hstamp

/-- The file of the log may change as long as it is the one that was changed last. -/
theorem of_current {d' : Folder} {place : Nat} {f : File} (h : Holds name l d g)
    (hname : isFileName name = true) (hsound : d'.Sound) (hplace : d'.find? name = some place)
    (hfile : ∀ n, d'.file? n = if n = name then some f else d.file? n)
    (hnewest : ∀ n ∈ backupNames name (survivors g.volumes), (changed d n).Before f.modified) :
    Holds name { l with opened := some place } d' { g with current := f.bytes } := by
  have hself : d'.file? name = some f := by rw [hfile, if_pos rfl]
  have hbackup {n : String} (hn : isBackup name n = true) : d'.file? n = d.file? n := by
    rw [hfile, if_neg (ne_of_isBackup hn)]
  exact {
    named := h.named
    opened := hplace.symm
    backups := h.backups.congr hsound fun n hn => hbackup hn
    current := by simp [Folder.bytesOf, hself]
    newest := fun {n} _ hn => by
      rw [changed, changed, hself, hbackup (isBackup_of_mem_backupNames hn)]
      exact hnewest n hn
    named_log := fun _ => hname
    named_backup := h.named_backup }

/-- Opening makes the file if it is not there. -/
theorem openFile (h : Holds name l d g) (hname : isFileName name = true) {now : Moment}
    (hbefore : AllBefore d now) :
    ∃ place d', l.openFile d now = some (place, d') ∧ d'.find? name = some place ∧
      Holds name { l with opened := some place } d' g ∧ NoneAfter d' now := by
  cases hfind : d.find? name with
  | some place =>
    have hopened : l.opened = some place := h.opened.trans hfind
    refine ⟨place, d, by simp [LogFile.openFile, hopened], hfind, ?_, hbefore.noneAfter⟩
    rw [← hopened]
    exact h
  | none =>
    have hopened : l.opened = none := h.opened.trans hfind
    have hempty : g.current = [] := by
      rw [← h.current, Folder.bytesOf, (h.backups.sound.find?_eq_none_iff name).1 hfind]
      rfl
    have hfile (n : String) := h.backups.sound.file?_create name n ⟨[], now⟩
    have hplace : (d.create name ⟨[], now⟩).2.find? name = some d.files.length := by
      rw [Folder.find?_create, if_pos rfl]
    have hnewest : ∀ n ∈ backupNames name (survivors g.volumes), (changed d n).Before now := by
      intro n hn
      obtain ⟨f, hf⟩ := Option.isSome_iff_exists.1
        ((h.backups.isSome_iff (isBackup_of_mem_backupNames hn)).2 hn)
      rw [changed, hf]
      exact hbefore n f hf
    refine ⟨d.files.length, (d.create name ⟨[], now⟩).2, ?_, hplace, ?_, ?_⟩
    · simp [LogFile.openFile, hopened, h.named, hfind, hname, Folder.create]
    · have hcurrent := h.of_current hname (h.backups.sound.create _ _) hplace hfile hnewest
      have hbytes : g = { g with current := (⟨[], now⟩ : File).bytes } := by
        cases g
        cases hempty
        rfl
      rwa [hbytes]
    · exact hbefore.noneAfter.of_current hfile rfl

/-- A file whose name no folder can have cannot be opened. -/
theorem openFile_eq_none (h : Holds name l d g) (hname : isFileName name = false) (now : Moment) :
    l.openFile d now = none := by
  have hnone : d.find? name = none := by
    rw [← Option.not_isSome_iff_eq_none, ← h.backups.sound.file?_isSome]
    exact fun hsome => by simp [h.named_log hsome] at hname
  simp [LogFile.openFile, h.opened.trans hnone, h.named, hnone, hname]

/-- Appending bytes to the file that is open. -/
theorem append {place : Nat} {now : Moment} (h : Holds name l d g)
    (hplace : d.find? name = some place) (hafter : NoneAfter d now) (b : List UInt8) :
    Holds name l (d.update place (·.append b now)) { g with current := g.current ++ b } ∧
      NoneAfter (d.update place (·.append b now)) now := by
  obtain ⟨f, hf⟩ : ∃ f, d.file? name = some f := by
    rw [← Option.isSome_iff_exists, h.backups.sound.file?_isSome, hplace]
    rfl
  have hfile (n : String) : (d.update place (·.append b now)).file? n =
      if n = name then some (f.append b now) else d.file? n := by
    rw [h.backups.sound.file?_update hplace, hf]
    rfl
  have hnewest : ∀ n ∈ backupNames name (survivors g.volumes), (changed d n).Before now := by
    intro n hn
    have hold := h.newest (by simp [hf]) hn
    rw [changed, changed, hf] at hold
    rcases hafter name f hf with heq | hbefore
    · exact heq ▸ hold
    · exact hold.trans hbefore
  have hbytes : (f.append b now).bytes = g.current ++ b := by
    rw [File.bytes_append, ← h.current, Folder.bytesOf, hf]
    rfl
  have hopened : { l with opened := some place } = l := by rw [← hplace, ← h.opened]
  have hcurrent := h.of_current (h.named_log (by simp [hf])) (h.backups.sound.update _ _) hplace
    hfile hnewest
  rw [hopened, hbytes] at hcurrent
  exact ⟨hcurrent, hafter.of_current hfile rfl⟩

/-- A write does to the files what it does to the chronicle, if the names allow it. -/
theorem write (h : Holds name l d g) {p : Portion UInt8} (hbefore : AllBefore d p.time)
    (hname : Nameable name (g.write p)) :
    ∃ l' d', write? l d p = some (l', d') ∧ Holds name l' d' (g.write p) ∧ NoneAfter d' p.time := by
  obtain ⟨lr, dr, hrotate, hrotated, hallBefore⟩ := h.rotate fun s hs => hname.backup hs
  obtain ⟨place, dop, hopen, hplace, hopened, hafter⟩ :=
    hrotated.openFile hname.log (hallBefore _ hbefore)
  by_cases hb : p.bytes = []
  · refine ⟨{ lr with opened := some place }, dop, ?_, ?_, hafter⟩
    · simp [write?, LogFile.write, hrotate, hopen, hb]
    · simpa [Chronicle.write, hb] using hopened
  · obtain ⟨hwritten, hafter⟩ := hopened.append hplace hafter p.bytes
    refine ⟨{ lr with opened := some place }, dop.update place (·.append p.bytes p.time), ?_,
      hwritten, hafter⟩
    simp [write?, LogFile.write, hrotate, hopen, hb]

/-- A write fails otherwise. -/
theorem write_eq_none (h : Holds name l d g) {p : Portion UInt8}
    (hname : ¬ Nameable name (g.write p)) : write? l d p = none := by
  by_cases hstamp : ∀ s ∈ (g.rotated p.time.seconds).stamps,
      isFileName (backupName name s) = true
  · obtain ⟨lr, dr, hrotate, hrotated, -⟩ := h.rotate hstamp
    have hlog : isFileName name = false :=
      Bool.eq_false_iff.2 fun hlog => hname ⟨hlog, fun hs => hstamp _ hs⟩
    simp [write?, LogFile.write, hrotate, hrotated.openFile_eq_none hlog]
  · obtain ⟨lr, hrotate⟩ := h.rotate_eq_none hstamp
    simp [write?, LogFile.write, hrotate]

/-! ### Many writes -/

/-- A run of writes does to the files what it does to the chronicle, if the names allow it. -/
theorem writeAll {portions : List (Portion UInt8)} (h : Holds name l d g)
    (hbefore : ∀ p ∈ portions, AllBefore d p.time) (horder : InOrder portions)
    (hname : portions = [] ∨ Nameable name (g.after portions)) :
    ∃ l' d', LogFile.writeAll l d portions = some (l', d') ∧
      Holds name l' d' (g.after portions) := by
  induction portions generalizing l d g with
  | nil => exact ⟨l, d, rfl, h⟩
  | cons p rest ih =>
    obtain ⟨hlater, horder⟩ := List.pairwise_cons.1 horder
    have hall : Nameable name ((g.write p).after rest) :=
      hname.resolve_left (List.cons_ne_nil p rest)
    obtain ⟨l₁, d₁, hwrite, hholds, hafter⟩ := h.write (hbefore p List.mem_cons_self) hall.of_after
    have hbefore₁ : ∀ q ∈ rest, AllBefore d₁ q.time := fun q hq => hafter.allBefore (hlater q hq)
    obtain ⟨l', d', hrun, hdone⟩ := ih hholds hbefore₁ horder (.inr hall)
    exact ⟨l', d', by rw [LogFile.writeAll, hwrite, Option.bind_some, hrun], hdone⟩

/-- A run of writes fails otherwise. -/
theorem nameable_of_writeAll {portions : List (Portion UInt8)} (h : Holds name l d g)
    (hbefore : ∀ p ∈ portions, AllBefore d p.time) (horder : InOrder portions)
    (hrun : LogFile.writeAll l d portions ≠ none) :
    portions = [] ∨ Nameable name (g.after portions) := by
  induction portions generalizing l d g with
  | nil => exact .inl rfl
  | cons p rest ih =>
    obtain ⟨hlater, horder⟩ := List.pairwise_cons.1 horder
    have hname : Nameable name (g.write p) := by
      by_contra hname
      exact hrun (by rw [LogFile.writeAll, h.write_eq_none hname, Option.bind_none])
    obtain ⟨l₁, d₁, hwrite, hholds, hafter⟩ := h.write (hbefore p List.mem_cons_self) hname
    rw [LogFile.writeAll, hwrite, Option.bind_some] at hrun
    have hbefore₁ : ∀ q ∈ rest, AllBefore d₁ q.time := fun q hq => hafter.allBefore (hlater q hq)
    rcases ih hholds hbefore₁ horder hrun with rfl | hall
    · exact .inr hname
    · exact .inr hall

/-- The backups and the current file hold what the chronicle keeps. -/
theorem kept_eq (h : Holds name l d g) : LogFile.kept d l.name = g.kept := by
  have hbackups : (backupNames name (survivors g.volumes)).reverse.flatMap d.bytesOf =
      (survivors g.volumes).reverse.flatMap Volume.bytes := by
    rw [backupNames, ← List.map_reverse, List.flatMap_map]
    exact List.flatMap_congr fun v hv => h.backups.bytes (List.mem_reverse.1 hv)
  rw [LogFile.kept, h.named, h.backups.backups_eq, List.flatMap_append, hbackups,
    List.flatMap_singleton, h.current, Chronicle.kept]

/-- There are as many backups as volumes survive. -/
theorem length_backups (h : Holds name l d g) :
    (LogFile.backups d l.name).length = (survivors g.volumes).length := by
  rw [h.named, h.backups.backups_eq, backupNames, List.length_map]

end Holds

/-! ### The whole life of a log -/

/-- Nothing is written yet, and the folder is empty. -/
theorem holds_new (path : String) :
    Holds (LogFile.new path).name (.new path) .empty Chronicle.empty := by
  have hnone (n : String) : Folder.empty.file? n = none := rfl
  have hkeeps : KeepsVolumes .empty (LogFile.new path).name [] := {
    sound := Folder.sound_empty
    isSome_iff := by simp [hnone, backupNames]
    bytes := by simp
    newest_first := .nil }
  exact {
    named := rfl
    opened := rfl
    backups := hkeeps
    current := rfl
    newest := by simp [hnone]
    named_log := by simp [hnone]
    named_backup := by simp [Chronicle.stamps, Chronicle.empty] }

/-- A folder without files has none that is newer than a moment. -/
theorem allBefore_empty (now : Moment) : AllBefore .empty now := fun n f hf => by cases hf

variable {path : String} {portions : List (Portion UInt8)}

/-- A run of writes succeeds if the names of its files are names that a folder can have. -/
theorem exists_writeAll (horder : InOrder portions)
    (hname : portions = [] ∨ Nameable (LogFile.new path).name (Chronicle.empty.after portions)) :
    ∃ l d, writeAll (.new path) .empty portions = some (l, d) ∧
      Holds (LogFile.new path).name l d (Chronicle.empty.after portions) :=
  (holds_new path).writeAll (fun p _ => allBefore_empty p.time) horder hname

/-- A run of writes that succeeds leaves what the chronicle of its writes says. -/
theorem holds_of_writeAll {l : LogFile} {d : Folder} (horder : InOrder portions)
    (hrun : writeAll (.new path) .empty portions = some (l, d)) :
    Holds (LogFile.new path).name l d (Chronicle.empty.after portions) := by
  have hname := (holds_new path).nameable_of_writeAll (fun p _ => allBefore_empty p.time) horder
    (by simp [hrun])
  obtain ⟨l', d', hrun', h⟩ := exists_writeAll horder hname
  rw [hrun] at hrun'
  cases hrun'
  exact h

/-- Whether a run succeeds depends on the moments and sizes alone. -/
theorem exists_writeAll_of_outline {others : List (Portion UInt8)} {l : LogFile} {d : Folder}
    (horder : InOrder portions) (hrun : writeAll (.new path) .empty portions = some (l, d))
    (houtline : others.map Portion.outline = portions.map Portion.outline) :
    ∃ l' d', writeAll (.new path) .empty others = some (l', d') ∧
      Holds (LogFile.new path).name l' d' (Chronicle.empty.after others) := by
  have htimes : others.map Portion.time = portions.map Portion.time := by
    simpa [Function.comp_def, Portion.outline, Portion.map] using
      congrArg (List.map Portion.time) houtline
  have horder' : InOrder others := by
    rw [InOrder, ← List.pairwise_map (f := Portion.time), htimes]
    exact List.pairwise_map.2 horder
  refine exists_writeAll horder' ?_
  rcases (holds_new path).nameable_of_writeAll (fun p _ => allBefore_empty p.time) horder
    (by simp [hrun]) with rfl | hname
  · exact .inl (List.map_eq_nil_iff.1 houtline)
  · exact .inr ⟨hname.log, fun hstamp => hname.backup (Chronicle.stamps_congr houtline ▸ hstamp)⟩

/-- After writes at increasing moments, of which several may fall into one second, there are at most
three backups. Whatever was written at these moments in these sizes, backups and current file hold
the end of it, exactly if no stamp repeats among the newest volumes, counting as many as there are
backups. Where one repeats, an older backup outlives the volume whose place was taken. -/
theorem keeps_end_iff {l : LogFile} {d : Folder} (horder : InOrder portions)
    (hrun : writeAll (.new path) .empty portions = some (l, d)) :
    (backups d l.name).length ≤ backupLimit ∧
      ((∀ others : List (Portion UInt8),
          others.map Portion.outline = portions.map Portion.outline →
          ∃ l' d', writeAll (.new path) .empty others = some (l', d') ∧
            kept d' l'.name <:+ others.flatMap Portion.bytes) ↔
        ((Chronicle.empty.after portions).stamps.take (backups d l.name).length).Nodup) := by
  have hbytes : Nontrivial UInt8 := ⟨0, 1, by decide⟩
  have hholds := holds_of_writeAll horder hrun
  rw [hholds.length_backups, ← @kept_isSuffix_iff _ UInt8 _ portions]
  refine ⟨length_survivors_le _, forall₂_congr fun others houtline => ?_⟩
  obtain ⟨l', d', hrun', hholds'⟩ := exists_writeAll_of_outline horder hrun houtline
  constructor
  · rintro ⟨l'', d'', hrun'', hkept⟩
    rw [hrun'] at hrun''
    cases hrun''
    rwa [hholds'.kept_eq] at hkept
  · intro hkept
    exact ⟨l', d', hrun', by rwa [hholds'.kept_eq]⟩

/-- Three files are rotated, the last one in the same second as the one before it or in the next. In
the same second it takes the place of that one, while the oldest is kept. -/
theorem keeps_end_iff_of_three_rotations :
    let portions (last : Int) : List (Portion UInt8) :=
      [⟨⟨80, 0⟩, .replicate (sizeLimit + 1) 1⟩, ⟨⟨90, 1⟩, .replicate (sizeLimit + 1) 2⟩,
        ⟨⟨100, 2⟩, .replicate (sizeLimit + 1) 3⟩, ⟨⟨last, 3⟩, [4]⟩]
    let KeepsEnd (last : Int) : Prop := ∀ others : List (Portion UInt8),
      others.map Portion.outline = (portions last).map Portion.outline →
      ∃ l d, writeAll (.new "confview.log") .empty others = some (l, d) ∧
        kept d l.name <:+ others.flatMap Portion.bytes
    (InOrder (portions 101) ∧
      ∃ l d, writeAll (.new "confview.log") .empty (portions 101) = some (l, d) ∧
        (backups d l.name).length ≤ backupLimit ∧ KeepsEnd 101) ∧
    InOrder (portions 100) ∧
      ∃ l d, writeAll (.new "confview.log") .empty (portions 100) = some (l, d) ∧
        (backups d l.name).length ≤ backupLimit ∧ ¬ KeepsEnd 100 := by
  intro portions KeepsEnd
  have horder {last : Int} (hlast : 100 ≤ last) : InOrder (portions last) := by
    simp only [InOrder, portions, Moment.Before, List.pairwise_cons, List.mem_cons,
      List.not_mem_nil, or_false]
    grind
  have hvolumes (last : Int) : (Chronicle.empty.after (portions last)).volumes =
      [⟨last, .replicate (sizeLimit + 1) 3⟩, ⟨100, .replicate (sizeLimit + 1) 2⟩,
        ⟨90, .replicate (sizeLimit + 1) 1⟩] := by
    have hfull (b : UInt8) : sizeLimit < (List.replicate (sizeLimit + 1) b).length := by
      rw [List.length_replicate]
      exact Nat.lt_succ_self _
    rw [Chronicle.after_cons, Chronicle.write_of_not_full (Nat.not_lt_zero _), Chronicle.after_cons,
      Chronicle.write_of_full (hfull 1), Chronicle.after_cons, Chronicle.write_of_full (hfull 2),
      Chronicle.after_cons, Chronicle.write_of_full (hfull 3)]
    rfl
  have hname {last : Int} (hlast : isFileName (backupName "confview.log" last) = true) :
      Nameable (LogFile.new "confview.log").name (Chronicle.empty.after (portions last)) := by
    refine ⟨by decide, fun {stamp} hstamp => ?_⟩
    rw [Chronicle.stamps, hvolumes] at hstamp
    simp only [List.map_cons, List.map_nil, List.mem_cons, List.not_mem_nil, or_false] at hstamp
    rcases hstamp with rfl | rfl | rfl
    · exact hlast
    · decide
    · decide
  obtain ⟨l, d, hrun, hholds⟩ :=
    exists_writeAll (horder (by decide : (100 : Int) ≤ 101)) (.inr (hname (by decide)))
  obtain ⟨l', d', hrun', hholds'⟩ :=
    exists_writeAll (horder (by decide : (100 : Int) ≤ 100)) (.inr (hname (by decide)))
  have hlength : (backups d l.name).length = 3 := by
    rw [hholds.length_backups, hvolumes]
    simp [survivors, backupLimit]
  have hlength' : (backups d' l'.name).length = 2 := by
    rw [hholds'.length_backups, hvolumes]
    simp [survivors, backupLimit]
  have hapart := keeps_end_iff (horder (by decide)) hrun
  have hsame := keeps_end_iff (horder (by decide)) hrun'
  rw [hlength, Chronicle.stamps, hvolumes] at hapart
  rw [hlength', Chronicle.stamps, hvolumes] at hsame
  constructor
  · exact ⟨horder (by decide), l, d, hrun, hlength.le, hapart.2.2 (by simp)⟩
  · refine ⟨horder (by decide), l', d', hrun', hlength'.le.trans (by decide), fun hkeeps => ?_⟩
    exact absurd (hsame.2.1 hkeeps) (by simp)

end ConfigBrowser.LogFile
