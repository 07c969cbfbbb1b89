import ConfigBrowser.Proofs.Log.Files
import ConfigBrowser.Proofs.Log.Volumes

/-!
# Backups of a Log

The rotated files of a log are the volumes that survive, each under the name with its stamp. Since a
file that is rotated was changed after all that were rotated before it, sorting the names by these
moments gives the order in which the volumes were written, and pruning takes away the oldest ones.
Renaming puts a volume in the place of the one that has the same stamp.

## Main results

* `KeepsVolumes.backups_eq`: the names of the backups, in the order in which they are pruned.
* `KeepsVolumes.rename`, `KeepsVolumes.prune`: what rotating does to the backups.
-/

namespace ConfigBrowser.LogFile

open Log

/-! ### Names of backups -/

/-- The name of a backup is known as one. -/
theorem isBackup_backupName (name : String) (stamp : Int) :
    isBackup name (backupName name stamp) = true := by
  simp [isBackup, backupName, List.isPrefixOf_iff_prefix]

/-- Backups with different stamps have different names. -/
theorem backupName_injective (name : String) {s t : Int}
    (h : backupName name s = backupName name t) : s = t := by
  have hlist := congrArg String.toList h
  simp only [backupName, String.toList_append, List.append_cancel_left_eq] at hlist
  exact Int.repr_injective (String.toList_injective hlist)

/-- The file of the log is none of its backups. -/
theorem ne_of_isBackup {name n : String} (h : isBackup name n = true) : n ≠ name := by
  rintro rfl
  have hlength := (List.isPrefixOf_iff_prefix.1 h).length_le
  simp at hlength

/-- The names under which volumes are kept. -/
def backupNames (name : String) (volumes : List (Volume UInt8)) : List String :=
  volumes.map fun v => backupName name v.stamp

/-- The names of the volumes are names of backups. -/
theorem isBackup_of_mem_backupNames {name n : String} {volumes : List (Volume UInt8)}
    (h : n ∈ backupNames name volumes) : isBackup name n = true := by
  obtain ⟨v, -, rfl⟩ := List.mem_map.1 h
  exact isBackup_backupName name v.stamp

/-- Leaving out the volumes with a stamp leaves out the name of their backup. -/
theorem backupNames_filter (name : String) (stamp : Int) (volumes : List (Volume UInt8)) :
    backupNames name (volumes.filter (·.stamp ≠ stamp)) =
      (backupNames name volumes).filter (· ≠ backupName name stamp) := by
  have hsame (v : Volume UInt8) :
      decide (v.stamp ≠ stamp) = decide (backupName name v.stamp ≠ backupName name stamp) :=
    decide_eq_decide.2 (not_congr ⟨congrArg _, backupName_injective name⟩)
  simp only [backupNames, List.filter_map, Function.comp_def, hsame]

/-- The first volumes have the first names. -/
theorem backupNames_take (name : String) (count : Nat) (volumes : List (Volume UInt8)) :
    backupNames name (volumes.take count) = (backupNames name volumes).take count := List.map_take

/-! ### Volumes in a folder -/

/-- When the file with a name was last changed. -/
def changed (d : Folder) (name : String) : Moment := (d.file? name).elim ⟨0, 0⟩ File.modified

/-- Was each of these files changed after those behind it? -/
def NewestFirst (d : Folder) (names : List String) : Prop :=
  names.Pairwise fun a b => (changed d b).Before (changed d a)

/-- An order of names by age depends on their files alone. -/
theorem NewestFirst.congr {d d' : Folder} {names : List String} (h : NewestFirst d names)
    (hfiles : ∀ n ∈ names, d'.file? n = d.file? n) : NewestFirst d' names :=
  h.imp_of_mem fun {a b} ha hb hbefore => by
    rw [changed, changed, hfiles a ha, hfiles b hb]
    exact hbefore

/-- Are the backups of a log these volumes, the newest in front? -/
structure KeepsVolumes (d : Folder) (name : String) (volumes : List (Volume UInt8)) : Prop where
  sound : d.Sound
  isSome_iff {n : String} :
    isBackup name n = true → ((d.file? n).isSome = true ↔ n ∈ backupNames name volumes)
  bytes {v : Volume UInt8} : v ∈ volumes → d.bytesOf (backupName name v.stamp) = v.bytes
  newest_first : NewestFirst d (backupNames name volumes)

/-! ### What rotating does to the files -/

/-- Pruning removes the backups beyond the limit and no other file. -/
theorem file?_prune (d : Folder) (name n : String) :
    (prune d name).file? n = if n ∈ (backups d name).drop backupLimit then none else d.file? n :=
  Folder.file?_removeAll _ _ _

/-- After rotating there is no file of the log. -/
theorem file?_prune_rename_self {d : Folder} {name : String} {place : Nat}
    (h : d.find? name = some place) (stamp : Int) :
    (prune (d.rename name (backupName name stamp)) name).file? name = none := by
  have hne := ne_of_isBackup (isBackup_backupName name stamp)
  rw [file?_prune, Folder.file?_rename_eq h, if_neg hne.symm, if_pos rfl, ite_self]

/-- Rotating makes no files. -/
theorem exists_file?_of_file?_prune_rename {d : Folder} {name n : String} {place : Nat} {f : File}
    (h : d.find? name = some place) {stamp : Int}
    (hf : (prune (d.rename name (backupName name stamp)) name).file? n = some f) :
    ∃ n', d.file? n' = some f := by
  rw [file?_prune, Folder.file?_rename_eq h] at hf
  split_ifs at hf
  · exact ⟨name, hf⟩
  · exact ⟨n, hf⟩

namespace KeepsVolumes

variable {d : Folder} {name : String} {volumes : List (Volume UInt8)}

/-- The backups were changed at different moments. -/
theorem nodup_changed (h : KeepsVolumes d name volumes) :
    ((backupNames name volumes).map (changed d)).Nodup :=
  List.pairwise_map.2 (h.newest_first.imp fun hbefore => fun heq =>
    Moment.Before.irrefl _ (heq ▸ hbefore))

/-- No two volumes that are kept have the same name. -/
theorem nodup (h : KeepsVolumes d name volumes) : (backupNames name volumes).Nodup :=
  h.nodup_changed.of_map

/-- Pruning looks at the backups in the order of their volumes. -/
theorem backups_eq (h : KeepsVolumes d name volumes) :
    backups d name = backupNames name volumes := by
  have hkeys : d.names.keys.Nodup :=
    List.pairwise_map.2 (d.names.sorted.imp fun hlt heq => by simp [heq] at hlt)
  have hperm : (backups d name).Perm (backupNames name volumes) := by
    refine (List.mergeSort_perm _ _).trans
      ((List.perm_ext_iff_of_nodup (hkeys.filter _) h.nodup).2 fun n => ?_)
    rw [List.mem_filter, h.sound.mem_keys_names]
    exact ⟨fun hn => (h.isSome_iff hn.2).1 hn.1, fun hn =>
      ⟨(h.isSome_iff (isBackup_of_mem_backupNames hn)).2 hn, isBackup_of_mem_backupNames hn⟩⟩
  have hsorted : (backups d name).Pairwise fun a b =>
      (changed d a).notBefore (changed d b) = true :=
    @List.pairwise_mergeSort _ (fun a b => (changed d a).notBefore (changed d b))
      (fun _ _ _ => Moment.notBefore_trans) (fun _ _ => Moment.notBefore_total _ _) _
  have hnames : (backupNames name volumes).Pairwise fun a b =>
      (changed d a).notBefore (changed d b) = true :=
    h.newest_first.imp fun hbefore => Moment.notBefore_iff.2 fun hafter =>
      Moment.Before.irrefl _ (hbefore.trans hafter)
  -- Both lists are sorted by the moments of change, which do not repeat.
  refine hperm.eq_of_pairwise (fun a b ha hb hab hba => ?_) hsorted hnames
  exact List.inj_on_of_nodup_map h.nodup_changed (hperm.subset ha) hb
    (Moment.notBefore_antisymm hab hba)

/-- Which volumes are kept depends on the backups alone. -/
theorem congr {d' : Folder} (h : KeepsVolumes d name volumes) (hsound : d'.Sound)
    (hfiles : ∀ n, isBackup name n = true → d'.file? n = d.file? n) :
    KeepsVolumes d' name volumes where
  sound := hsound
  isSome_iff hn := by rw [hfiles _ hn, h.isSome_iff hn]
  bytes {v} hv := by
    rw [Folder.bytesOf, hfiles _ (isBackup_backupName name v.stamp)]
    exact h.bytes hv
  newest_first := h.newest_first.congr fun n hn => hfiles n (isBackup_of_mem_backupNames hn)

/-- Renaming puts the current file in front of the backups, in place of the one with its stamp. -/
theorem rename {place : Nat} (h : KeepsVolumes d name volumes) (hplace : d.find? name = some place)
    (hnewest : ∀ n ∈ backupNames name volumes, (changed d n).Before (changed d name))
    (stamp : Int) :
    KeepsVolumes (d.rename name (backupName name stamp)) name
      (⟨stamp, d.bytesOf name⟩ :: volumes.filter (·.stamp ≠ stamp)) := by
  have hfile {n : String} (hn : isBackup name n = true) :
      (d.rename name (backupName name stamp)).file? n =
        if n = backupName name stamp then d.file? name else d.file? n := by
    rw [Folder.file?_rename_eq hplace, if_neg (ne_of_isBackup hn)]
  have hself : (d.rename name (backupName name stamp)).file? (backupName name stamp) =
      d.file? name := by rw [hfile (isBackup_backupName name stamp), if_pos rfl]
  have hother {n : String} (hn : n ∈ backupNames name (volumes.filter (·.stamp ≠ stamp))) :
      (d.rename name (backupName name stamp)).file? n = d.file? n := by
    rw [backupNames_filter, List.mem_filter, decide_eq_true_eq] at hn
    rw [hfile (isBackup_of_mem_backupNames hn.1), if_neg hn.2]
  have hnames : backupNames name (⟨stamp, d.bytesOf name⟩ :: volumes.filter (·.stamp ≠ stamp)) =
      backupName name stamp :: backupNames name (volumes.filter (·.stamp ≠ stamp)) := rfl
  refine ⟨h.sound.rename _ _, fun {n} hn => ?_, fun {v} hv => ?_, ?_⟩
  · rw [hnames, backupNames_filter, hfile hn]
    split
    · next heq => simp [heq, h.sound.file?_isSome, hplace]
    · next hne => simp [hne, h.isSome_iff hn]
  · rcases List.mem_cons.1 hv with rfl | hv
    · rw [Folder.bytesOf, hself, Folder.bytesOf]
    · rw [Folder.bytesOf, hother (List.mem_map.2 ⟨v, hv, rfl⟩)]
      exact h.bytes (List.mem_filter.1 hv).1
  · have hrest : NewestFirst d (backupNames name (volumes.filter (·.stamp ≠ stamp))) :=
      h.newest_first.sublist (List.filter_sublist.map _)
    refine List.pairwise_cons.2 ⟨fun n hn => ?_, hrest.congr fun n hn => hother hn⟩
    rw [changed, changed, hself, hother hn]
    exact hnewest n ((List.filter_sublist.map _).subset hn)

/-- Pruning takes away the oldest backups. -/
theorem prune (h : KeepsVolumes d name volumes) :
    KeepsVolumes (LogFile.prune d name) name (volumes.take backupLimit) := by
  have hfile (n : String) : (LogFile.prune d name).file? n =
      if n ∈ (backupNames name volumes).drop backupLimit then none else d.file? n := by
    rw [file?_prune, h.backups_eq]
  have hkept {n : String} (hn : n ∈ backupNames name (volumes.take backupLimit)) :
      n ∉ (backupNames name volumes).drop backupLimit :=
    List.disjoint_take_drop h.nodup (Nat.le_refl _) (backupNames_take _ _ _ ▸ hn)
  have hother {n : String} (hn : n ∈ backupNames name (volumes.take backupLimit)) :
      (LogFile.prune d name).file? n = d.file? n := by rw [hfile, if_neg (hkept hn)]
  refine ⟨h.sound.removeAll _, fun {n} hn => ?_, fun {v} hv => ?_, ?_⟩
  · have hsplit : n ∈ backupNames name volumes ↔
        n ∈ backupNames name (volumes.take backupLimit) ∨
          n ∈ (backupNames name volumes).drop backupLimit := by
      rw [backupNames_take, ← List.mem_append, List.take_append_drop]
    rw [hfile]
    split
    · next hdrop => simpa using fun htake => hkept htake hdrop
    · next hdrop => simp [h.isSome_iff hn, hsplit, hdrop]
  · rw [Folder.bytesOf, hother (List.mem_map.2 ⟨v, hv, rfl⟩)]
    exact h.bytes (List.mem_of_mem_take hv)
  · have hrest : NewestFirst d (backupNames name (volumes.take backupLimit)) :=
      h.newest_first.sublist ((List.take_sublist _ _).map _)
    exact hrest.congr fun n hn => hother hn

end KeepsVolumes

end ConfigBrowser.LogFile
