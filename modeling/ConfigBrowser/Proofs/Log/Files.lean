import ConfigBrowser.Log.Rotation
import Mathlib

/-!
# Files under Their Names

In a folder that was built up by its operations every name stands for a file, and no two names stand
for the same one. What an operation does to the files can then be said name by name: it concerns the
names that it is about, and all other names keep their files.

## Main results

* `Folder.Sound`: names stand for files, and different names for different ones.
* `Folder.Sound.file?_create`, `Folder.Sound.file?_update`, `Folder.file?_rename_eq`,
  `Folder.file?_removeAll`: which file a name stands for afterwards.
* `Moment.Before.trans`: moments are ordered.
-/

namespace ConfigBrowser.Log

/-! ### Moments -/

/-- Is a moment before another one? -/
def Moment.Before (a b : Moment) : Prop :=
  a.seconds < b.seconds ∨ (a.seconds = b.seconds ∧ a.tick < b.tick)

/-- What is before a moment is before all that come after that. -/
theorem Moment.Before.trans {a b c : Moment} (hab : a.Before b) (hbc : b.Before c) :
    a.Before c := by
  unfold Before at *
  omega

/-- No moment is before itself. -/
theorem Moment.Before.irrefl (a : Moment) : ¬ a.Before a := by
  unfold Before
  omega

/-- The test that the rotation sorts by is the order of moments. -/
theorem Moment.notBefore_iff {a b : Moment} : a.notBefore b = true ↔ ¬ a.Before b := by
  simp only [notBefore, Before, Bool.or_eq_true, Bool.and_eq_true, decide_eq_true_eq]
  omega

/-- The test goes on over a moment between. -/
theorem Moment.notBefore_trans {a b c : Moment} (hab : a.notBefore b = true)
    (hbc : b.notBefore c = true) : a.notBefore c = true := by
  rw [notBefore_iff, Before] at *
  omega

/-- Only one moment is not before another one either way: itself. -/
theorem Moment.notBefore_antisymm {a b : Moment} (hab : a.notBefore b = true)
    (hba : b.notBefore a = true) : a = b := by
  obtain ⟨seconds, tick⟩ := a
  obtain ⟨seconds', tick'⟩ := b
  simp only [notBefore_iff, Before, mk.injEq] at *
  omega

/-- Of two moments one is not before the other. -/
theorem Moment.notBefore_total (a b : Moment) : (a.notBefore b || b.notBefore a) = true := by
  rw [Bool.or_eq_true, notBefore_iff, notBefore_iff, Before, Before]
  omega

/-! ### Sizes -/

/-- The size of a piece is the number of its bytes. -/
theorem Piece.size_eq_length (p : Piece) : p.size = p.toBytes.length := by
  cases p <;> simp [size, toBytes]

/-- The size of a file is the number of its bytes. -/
theorem File.size_eq_length (f : File) : f.size = f.bytes.length := by
  obtain ⟨pieces, -⟩ := f
  simp only [size, bytes]
  induction pieces with
  | nil => rfl
  | cons p pieces ih => simp [Piece.sizeAll, ih, Piece.size_eq_length]

namespace Folder

/-- The bytes of the file with a name. -/
def bytesOf (d : Folder) (name : String) : List UInt8 := (d.file? name).elim [] File.bytes

/-- Does every name stand for a file, and no other name for the same one? -/
structure Sound (d : Folder) : Prop where
  placed {name : String} {place : Nat} : d.find? name = some place → place < d.files.length
  apart {name name' : String} {place : Nat} :
    d.find? name = some place → d.find? name' = some place → name = name'

/-- In a folder without files no name stands for anything. -/
theorem sound_empty : Sound empty where
  placed h := by simp [find?, empty] at h
  apart h := by simp [find?, empty] at h

variable {d : Folder}

/-- A name that stands for a place stands for a file. -/
theorem Sound.file?_isSome (hd : d.Sound) (name : String) :
    (d.file? name).isSome = (d.find? name).isSome := by
  cases h : d.find? name with
  | none => simp [file?, h]
  | some place => simp [file?, h, hd.placed h]

/-- A name without a place is one without a file. -/
theorem Sound.find?_eq_none_iff (hd : d.Sound) (name : String) :
    d.find? name = none ↔ d.file? name = none := by
  rw [← Option.not_isSome_iff_eq_none, ← hd.file?_isSome, Option.not_isSome_iff_eq_none]

/-- The names of a folder are those that have files. -/
theorem Sound.mem_keys_names (hd : d.Sound) {name : String} :
    name ∈ d.names.keys ↔ (d.file? name).isSome = true := by
  rw [hd.file?_isSome, SortedMap.mem_keys_iff, Option.isSome_iff_exists]
  rfl

/-! ### New files -/

/-- A new file gets a place of its own, and all other names keep theirs. -/
theorem find?_create (d : Folder) (name name' : String) (f : File) :
    (d.create name f).2.find? name' =
      if name' = name then some d.files.length else d.find? name' := by
  simp [find?, create, SortedMap.get?_insert]

/-- Making a file keeps a folder sound: its place is one that no name stands for yet. -/
theorem Sound.create (hd : d.Sound) (name : String) (f : File) : (d.create name f).2.Sound where
  placed {name' place} h := by
    rw [find?_create] at h
    simp only [Folder.create, List.length_append, List.length_singleton]
    split at h
    · cases h
      omega
    · have := hd.placed h
      omega
  apart {name₁ name₂ place} h₁ h₂ := by
    rw [find?_create] at h₁ h₂
    split at h₁ <;> split at h₂
    · simp_all
    · cases h₁
      exact absurd (hd.placed h₂) (Nat.lt_irrefl _)
    · cases h₂
      exact absurd (hd.placed h₁) (Nat.lt_irrefl _)
    · exact hd.apart h₁ h₂

/-- A new file is found under its name, and nothing changes under the others. -/
theorem Sound.file?_create (hd : d.Sound) (name name' : String) (f : File) :
    (d.create name f).2.file? name' = if name' = name then some f else d.file? name' := by
  rw [file?, find?_create]
  split
  · simp [Folder.create]
  · cases h : d.find? name' with
    | none => simp [file?, h]
    | some place => simp [file?, h, Folder.create, List.getElem?_append_left (hd.placed h)]

/-! ### Changed files -/

/-- Changing a file keeps a folder sound, since no name changes. -/
theorem Sound.update (hd : d.Sound) (place : Nat) (f : File → File) : (d.update place f).Sound where
  placed h := by
    have := hd.placed h
    simpa [Folder.update] using this
  apart h₁ h₂ := hd.apart h₁ h₂

/-- A change concerns the name that stands for the file, and no other. -/
theorem Sound.file?_update (hd : d.Sound) {name : String} {place : Nat}
    (h : d.find? name = some place) (name' : String) (f : File → File) :
    (d.update place f).file? name' =
      if name' = name then (d.file? name).map f else d.file? name' := by
  have hfind : (d.update place f).find? name' = d.find? name' := rfl
  rw [file?, hfind]
  split
  · next heq =>
    subst heq
    simp [file?, h, Folder.update, List.getElem?_modify]
  · next hne =>
    cases h' : d.find? name' with
    | none => simp [file?, h']
    | some place' =>
      have hplace : place ≠ place' := by
        rintro rfl
        exact hne (hd.apart h' h)
      simp [file?, h', Folder.update, List.getElem?_modify, hplace]

/-! ### Other names -/

/-- A renamed file takes its place with it, and its old name stands for nothing. -/
theorem find?_rename {old : String} {place : Nat} (h : d.find? old = some place)
    (new name : String) : (d.rename old new).find? name =
      if name = new then some place else if name = old then none else d.find? name := by
  simp only [rename, h]
  simp [find?, SortedMap.get?_insert, SortedMap.get?_erase]

/-- Renaming keeps a folder sound, also if the new name stood for a file before. -/
theorem Sound.rename (hd : d.Sound) (old new : String) : (d.rename old new).Sound := by
  cases h : d.find? old with
  | none => simpa [Folder.rename, h] using hd
  | some place =>
    have hfiles : (d.rename old new).files = d.files := by simp [Folder.rename, h]
    refine ⟨fun {name place'} h' => ?_, fun {name₁ name₂ place'} h₁ h₂ => ?_⟩
    · rw [find?_rename h] at h'
      rw [hfiles]
      split_ifs at h' with hnew hold
      · cases h'
        exact hd.placed h
      · exact hd.placed h'
    · rw [find?_rename h] at h₁ h₂
      split_ifs at h₁ h₂ with hnew₁ hnew₂ hold₂ hold₁ hnew₂ hold₂
      · exact hnew₁.trans hnew₂.symm
      · cases h₁
        exact absurd (hd.apart h₂ h) hold₂
      · cases h₂
        exact absurd (hd.apart h₁ h) hold₁
      · exact hd.apart h₁ h₂

/-- A renamed file is found under its new name and not under the old one. -/
theorem file?_rename_eq {old : String} {place : Nat} (h : d.find? old = some place)
    (new name : String) : (d.rename old new).file? name =
      if name = new then d.file? old else if name = old then none else d.file? name := by
  have hfiles : (d.rename old new).files = d.files := by simp [rename, h]
  rw [file?, find?_rename h, hfiles]
  split_ifs
  · simp [file?, h]
  · rfl
  · rfl

/-! ### Names taken away -/

/-- A removed name stands for nothing, and the others for what they did. -/
theorem find?_remove (d : Folder) (name name' : String) :
    (d.remove name).find? name' = if name' = name then none else d.find? name' :=
  SortedMap.get?_erase _ _ _

/-- Names that are removed one after the other all stand for nothing. -/
theorem find?_removeAll (d : Folder) (names : List String) (name : String) :
    (names.foldl remove d).find? name = if name ∈ names then none else d.find? name := by
  induction names generalizing d with
  | nil => simp
  | cons head names ih =>
    rw [List.foldl_cons, ih, find?_remove]
    by_cases hhead : name = head <;> by_cases hnames : name ∈ names <;> simp [hhead, hnames]

/-- Removing names leaves the files where they are. -/
theorem files_removeAll (d : Folder) (names : List String) :
    (names.foldl remove d).files = d.files := by
  induction names generalizing d with
  | nil => rfl
  | cons head names ih => rw [List.foldl_cons, ih, remove]

/-- Removing names keeps a folder sound. -/
theorem Sound.removeAll (hd : d.Sound) (names : List String) : (names.foldl remove d).Sound where
  placed h := by
    rw [find?_removeAll] at h
    rw [files_removeAll]
    split at h
    · cases h
    · exact hd.placed h
  apart h₁ h₂ := by
    rw [find?_removeAll] at h₁ h₂
    split at h₁ <;> split at h₂
    · cases h₁
    · cases h₁
    · cases h₂
    · exact hd.apart h₁ h₂

/-- No file is found under names that are removed, and all others stay. -/
theorem file?_removeAll (d : Folder) (names : List String) (name : String) :
    (names.foldl remove d).file? name = if name ∈ names then none else d.file? name := by
  rw [file?, find?_removeAll, files_removeAll]
  split <;> rfl

end Folder

end ConfigBrowser.Log
