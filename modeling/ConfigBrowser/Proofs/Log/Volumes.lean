import ConfigBrowser.Log.Rotation
import Mathlib

/-!
# What Rotation Keeps of What Was Written

What is written to a log ends up in volumes: what a file held when it was rotated, with the stamp
that it got, and last what the current file holds. A volume takes the place of an older one with the
same stamp, and beyond their limit the oldest ones are removed. So the volumes that survive need not
be the newest ones: where two get the same stamp while an older one is still kept, the older one
outlives what came after it.

The bytes may be of any type here. Unless bytes happen to repeat, whether what is kept is the end of
what was written depends on the sizes and moments alone. That is why bytes are replaced by their
positions, which do not repeat.

## Main results

* `Chronicle.bytes_after`: volumes and current file together hold what was written.
* `survivors_isPrefix_iff`: when the survivors are the newest volumes.
* `kept_isSuffix_iff`: when the end of what was written is kept, whatever was written.
-/

namespace ConfigBrowser.Log

universe u v

variable {α : Type u} {β : Type v}

/-! ### Portions and volumes -/

/-- What is written to a log at one moment. -/
structure Portion (α : Type u) where
  time : Moment
  bytes : List α

/-- What a file of the log held when it was rotated, and the stamp that it got. -/
structure Volume (α : Type u) where
  stamp : Int
  bytes : List α

/-- Everything that was written to a log, by the files that it was written to. -/
structure Chronicle (α : Type u) where
  /-- What was rotated, the newest in front. -/
  volumes : List (Volume α)
  /-- What the current file holds. -/
  current : List α

namespace Portion

/-- The portion with every byte changed in the same way. -/
def map (f : α → β) (p : Portion α) : Portion β := ⟨p.time, p.bytes.map f⟩

/-- When something was written and how many bytes. -/
def outline (p : Portion α) : Portion Unit := p.map fun _ => ()

/-- Changing bytes changes neither the moment nor the size of a portion. -/
@[simp] theorem outline_map (f : α → β) (p : Portion α) : (p.map f).outline = p.outline := by
  simp [outline, map, Function.comp_def]

end Portion

/-- The volume with every byte changed in the same way. -/
def Volume.map (f : α → β) (v : Volume α) : Volume β := ⟨v.stamp, v.bytes.map f⟩

/-- Changing bytes leaves the stamp. -/
@[simp] theorem Volume.stamp_map (f : α → β) (v : Volume α) : (v.map f).stamp = v.stamp := rfl

/-- The bytes of a changed volume are the changed bytes. -/
@[simp] theorem Volume.bytes_map (f : α → β) (v : Volume α) : (v.map f).bytes = v.bytes.map f := rfl

namespace Chronicle

/-- Nothing was written. -/
def empty : Chronicle α := ⟨[], []⟩

/-- Begins a new file when the current one has grown beyond its limit. -/
def rotated (g : Chronicle α) (stamp : Int) : Chronicle α :=
  if LogFile.sizeLimit < g.current.length then ⟨⟨stamp, g.current⟩ :: g.volumes, []⟩ else g

/-- Writes a portion. -/
def write (g : Chronicle α) (p : Portion α) : Chronicle α :=
  { g.rotated p.time.seconds with current := (g.rotated p.time.seconds).current ++ p.bytes }

/-- Writes portions. -/
def after (g : Chronicle α) (portions : List (Portion α)) : Chronicle α := portions.foldl write g

/-- The stamps of the volumes. -/
def stamps (g : Chronicle α) : List Int := g.volumes.map Volume.stamp

/-- All bytes, in the order in which they were written. -/
def bytes (g : Chronicle α) : List α := g.volumes.reverse.flatMap Volume.bytes ++ g.current

/-- The chronicle with every byte changed in the same way. -/
def map (f : α → β) (g : Chronicle α) : Chronicle β := ⟨g.volumes.map (·.map f), g.current.map f⟩

/-- A file beyond its limit becomes the newest volume. -/
theorem rotated_of_full {g : Chronicle α} (h : LogFile.sizeLimit < g.current.length) (stamp : Int) :
    g.rotated stamp = ⟨⟨stamp, g.current⟩ :: g.volumes, []⟩ := if_pos h

/-- A file within its limit is not rotated. -/
theorem rotated_of_not_full {g : Chronicle α} (h : ¬ LogFile.sizeLimit < g.current.length)
    (stamp : Int) : g.rotated stamp = g := if_neg h

/-- What is written to a full file begins a new one. -/
theorem write_of_full {g : Chronicle α} (h : LogFile.sizeLimit < g.current.length)
    (p : Portion α) : g.write p = ⟨⟨p.time.seconds, g.current⟩ :: g.volumes, p.bytes⟩ := by
  rw [write, rotated_of_full h, List.nil_append]

/-- What is written to a file that is not full is put behind what it holds. -/
theorem write_of_not_full {g : Chronicle α} (h : ¬ LogFile.sizeLimit < g.current.length)
    (p : Portion α) : g.write p = ⟨g.volumes, g.current ++ p.bytes⟩ := by
  rw [write, rotated_of_not_full h]

/-- The first of several portions is written first. -/
@[simp] theorem after_cons (g : Chronicle α) (p : Portion α) (portions : List (Portion α)) :
    g.after (p :: portions) = (g.write p).after portions := rfl

/-- Rotating loses no byte and moves none. -/
theorem bytes_rotated (g : Chronicle α) (stamp : Int) : (g.rotated stamp).bytes = g.bytes := by
  unfold rotated
  split
  · simp [bytes]
  · rfl

/-- A portion is written behind all bytes so far. -/
theorem bytes_write (g : Chronicle α) (p : Portion α) : (g.write p).bytes = g.bytes ++ p.bytes := by
  rw [← bytes_rotated g p.time.seconds]
  simp [write, bytes]

/-- What is written comes after what had been written. -/
theorem bytes_after (g : Chronicle α) (portions : List (Portion α)) :
    (g.after portions).bytes = g.bytes ++ portions.flatMap Portion.bytes := by
  induction portions generalizing g with
  | nil => simp [after]
  | cons p portions ih => rw [after_cons, ih, bytes_write, List.flatMap_cons, List.append_assoc]

/-- The files of a new log hold what was written, in order. -/
theorem bytes_after_empty (portions : List (Portion α)) :
    (empty.after portions).bytes = portions.flatMap Portion.bytes := bytes_after empty portions

/-- Rotating puts at most one volume in front of those there are. -/
theorem volumes_rotated_isSuffix (g : Chronicle α) (stamp : Int) :
    g.volumes <:+ (g.rotated stamp).volumes := by
  unfold rotated
  split
  · exact List.suffix_cons _ _
  · exact List.suffix_refl _

/-- No volume is forgotten. -/
theorem volumes_isSuffix_after (g : Chronicle α) (portions : List (Portion α)) :
    g.volumes <:+ (g.after portions).volumes := by
  induction portions generalizing g with
  | nil => exact List.suffix_refl _
  | cons p portions ih => exact (volumes_rotated_isSuffix g p.time.seconds).trans (ih (g.write p))

/-- Only full files become volumes. -/
theorem volumes_full_after (g : Chronicle α) (portions : List (Portion α))
    (h : ∀ v ∈ g.volumes, LogFile.sizeLimit < v.bytes.length) :
    ∀ v ∈ (g.after portions).volumes, LogFile.sizeLimit < v.bytes.length := by
  induction portions generalizing g with
  | nil => exact h
  | cons p portions ih =>
    refine ih (g.write p) fun v hv => ?_
    by_cases hfull : LogFile.sizeLimit < g.current.length
    · rw [write, rotated_of_full hfull] at hv
      rcases List.mem_cons.1 hv with rfl | hv
      · exact hfull
      · exact h v hv
    · rw [write, rotated_of_not_full hfull] at hv
      exact h v hv

/-- Rotating does not look at the bytes. -/
theorem rotated_map (f : α → β) (g : Chronicle α) (stamp : Int) :
    (g.map f).rotated stamp = (g.rotated stamp).map f := by
  by_cases hfull : LogFile.sizeLimit < g.current.length
  · have hmap : LogFile.sizeLimit < (g.map f).current.length := by simpa [map] using hfull
    rw [rotated_of_full hfull, rotated_of_full hmap]
    rfl
  · have hmap : ¬ LogFile.sizeLimit < (g.map f).current.length := by simpa [map] using hfull
    rw [rotated_of_not_full hfull, rotated_of_not_full hmap]

/-- Writing does not look at the bytes. -/
theorem write_map (f : α → β) (g : Chronicle α) (p : Portion α) :
    (g.map f).write (p.map f) = (g.write p).map f := by
  have htime : (p.map f).time = p.time := rfl
  rw [write, write, htime, rotated_map]
  simp [map, Portion.map]

/-- Files are rotated alike whatever the bytes are. -/
theorem after_map (f : α → β) (g : Chronicle α) (portions : List (Portion α)) :
    (g.map f).after (portions.map (·.map f)) = (g.after portions).map f := by
  induction portions generalizing g with
  | nil => rfl
  | cons p portions ih => rw [List.map_cons, after_cons, write_map, ih, after_cons]

end Chronicle

/-! ### Survivors -/

/-- The volumes that are kept, the newest in front. -/
def survivors : List (Volume α) → List (Volume α)
  | [] => []
  | v :: older => (v :: (survivors older).filter (·.stamp ≠ v.stamp)).take LogFile.backupLimit

/-- The bytes that are kept, in the order in which they were written. -/
def Chronicle.kept (g : Chronicle α) : List α :=
  (survivors g.volumes).reverse.flatMap Volume.bytes ++ g.current

/-- No more volumes survive than the limit allows. -/
theorem length_survivors_le (volumes : List (Volume α)) :
    (survivors volumes).length ≤ LogFile.backupLimit := by
  cases volumes with
  | nil => exact Nat.zero_le _
  | cons v older => exact List.length_take_le _ _

/-- Volumes survive in their order. -/
theorem survivors_sublist (volumes : List (Volume α)) : (survivors volumes).Sublist volumes := by
  induction volumes with
  | nil => exact List.Sublist.refl _
  | cons v older ih =>
    exact (List.take_sublist _ _).trans ((List.filter_sublist.trans ih).cons_cons v)

/-- No two volumes with the same stamp survive. -/
theorem nodup_stamps_survivors (volumes : List (Volume α)) :
    ((survivors volumes).map Volume.stamp).Nodup := by
  induction volumes with
  | nil => exact List.nodup_nil
  | cons v older ih =>
    have hcons : ((v :: (survivors older).filter (·.stamp ≠ v.stamp)).map Volume.stamp).Nodup := by
      refine List.nodup_cons.2 ⟨by simp, ?_⟩
      exact ih.sublist (List.filter_sublist.map _)
    exact hcons.sublist ((List.take_sublist _ _).map _)

/-- Which volumes survive does not depend on the bytes. -/
theorem survivors_map (f : α → β) (volumes : List (Volume α)) :
    survivors (volumes.map (·.map f)) = (survivors volumes).map (·.map f) := by
  induction volumes with
  | nil => rfl
  | cons v older ih =>
    rw [List.map_cons, survivors, survivors, ih, List.map_take, List.map_cons, List.filter_map]
    rfl

/-- What is kept of changed bytes is what is kept, changed. -/
theorem Chronicle.kept_map (f : α → β) (g : Chronicle α) : (g.map f).kept = g.kept.map f := by
  simp only [kept, map, survivors_map, List.map_append, List.map_flatMap, ← List.map_reverse,
    List.flatMap_map, Volume.bytes_map]

/-- As long as no stamp repeats among the newest volumes, these are the ones that survive. -/
theorem take_survivors {volumes : List (Volume α)} {count : Nat}
    (hcount : count ≤ (survivors volumes).length)
    (hnodup : ((volumes.map Volume.stamp).take count).Nodup) :
    (survivors volumes).take count = volumes.take count := by
  induction volumes generalizing count with
  | nil => rfl
  | cons v older ih =>
    obtain _ | count := count
    · rfl
    obtain ⟨hnew, hnodup⟩ := List.nodup_cons.1 hnodup
    -- None of the older volumes that are counted has to give way to the newest one.
    have hkept : ∀ w ∈ older.take count, decide (w.stamp ≠ v.stamp) = true := fun w hw =>
      decide_eq_true fun heq => hnew (List.map_take ▸ List.mem_map.2 ⟨w, hw, heq⟩)
    simp only [survivors, List.length_take, List.length_cons, Nat.le_min] at hcount
    have hle : count ≤ ((survivors older).filter (·.stamp ≠ v.stamp)).length := by omega
    have hsurvivors := ih (hle.trans (List.length_filter_le _ _)) hnodup
    have hfilter :
        ((survivors older).filter (·.stamp ≠ v.stamp)).take count = older.take count := by
      rw [← List.take_append_drop count (survivors older), hsurvivors, List.filter_append,
        List.filter_eq_self.2 hkept]
      refine List.take_left' ?_
      rw [← hsurvivors, List.length_take, Nat.min_eq_left (hle.trans (List.length_filter_le _ _))]
    rw [survivors, List.take_take, Nat.min_eq_left hcount.1, List.take_succ_cons, hfilter,
      List.take_succ_cons]

/-- The survivors are the newest volumes exactly if no stamp repeats among as many of those. -/
theorem survivors_isPrefix_iff (volumes : List (Volume α)) :
    survivors volumes <+: volumes ↔
      ((volumes.map Volume.stamp).take (survivors volumes).length).Nodup := by
  constructor
  · intro h
    rw [← List.map_take, ← List.prefix_iff_eq_take.1 h]
    exact nodup_stamps_survivors volumes
  · intro h
    have htake := take_survivors (Nat.le_refl _) h
    rw [List.take_length] at htake
    exact htake ▸ List.take_prefix _ _

/-! ### The end of what was written -/

/-- If the newest volumes survive, the end of what was written is kept. -/
theorem Chronicle.kept_isSuffix_of_isPrefix {g : Chronicle α}
    (h : survivors g.volumes <+: g.volumes) : g.kept <:+ g.bytes := by
  obtain ⟨lost, hlost⟩ := h
  refine ⟨lost.reverse.flatMap Volume.bytes, ?_⟩
  rw [kept, bytes, ← List.append_assoc, ← List.flatMap_append, ← List.reverse_append, hlost]

/-- Volumes whose bytes are the end of the bytes of all are the newest ones, where no byte occurs
twice. -/
theorem isPrefix_of_bytes_isSuffix {volumes kept : List (Volume α)}
    (hfull : ∀ v ∈ volumes, v.bytes ≠ []) (hsublist : kept.Sublist volumes)
    (hnodup : (volumes.reverse.flatMap Volume.bytes).Nodup)
    (hsuffix : kept.reverse.flatMap Volume.bytes <:+ volumes.reverse.flatMap Volume.bytes) :
    kept <+: volumes := by
  induction hsublist with
  | slnil => exact List.prefix_refl []
  | @cons kept volumes v hsublist ih =>
    cases kept with
    | nil => exact List.nil_prefix
    | cons w kept =>
      -- The bytes of `w` were written before those of `v`, and yet they stand at the end.
      exfalso
      simp only [List.reverse_cons, List.flatMap_append, List.flatMap_singleton] at hnodup hsuffix
      have hdisjoint := List.disjoint_of_nodup_append hnodup
      have hw : w ∈ volumes := hsublist.subset List.mem_cons_self
      have hwritten : w.bytes ⊆ volumes.reverse.flatMap Volume.bytes := fun b hb =>
        List.mem_flatMap.2 ⟨w, List.mem_reverse.2 hw, hb⟩
      rcases List.suffix_or_suffix_of_suffix ((List.suffix_append _ _).trans hsuffix)
        (List.suffix_append _ _) with hend | hend
      · obtain ⟨b, hb⟩ := List.exists_mem_of_ne_nil _ (hfull w (List.mem_cons_of_mem _ hw))
        exact hdisjoint (hwritten hb) (hend.subset hb)
      · obtain ⟨b, hb⟩ := List.exists_mem_of_ne_nil _ (hfull v List.mem_cons_self)
        exact hdisjoint (hwritten (hend.subset hb)) hb
  | @cons_cons kept volumes v hsublist ih =>
    simp only [List.reverse_cons, List.flatMap_append, List.flatMap_singleton] at hnodup hsuffix
    refine List.cons_prefix_cons.2 ⟨rfl, ih (fun w hw => hfull w (List.mem_cons_of_mem _ hw)) ?_ ?_⟩
    · exact (List.nodup_append'.1 hnodup).1
    · exact List.suffix_append_self_iff.1 hsuffix

/-- A list is the end of another one if it looks so under every naming of their members. -/
theorem isSuffix_of_forall_map {γ : Type v} [DecidableEq α] [Nontrivial γ] {short long : List α}
    (h : ∀ f : α → γ, short.map f <:+ long.map f) : short <:+ long := by
  obtain ⟨x, y, hxy⟩ := exists_pair_ne γ
  have hlength : short.length ≤ long.length := by simpa using (h fun _ => x).length_le
  have heq : short = long.drop (long.length - short.length) := by
    refine List.ext_getElem (by simp; omega) fun i hi hi' => ?_
    -- The naming that tells the member at this place from all others.
    have hnamed := List.suffix_iff_eq_drop.1 (h fun a => if a = short[i] then x else y)
    rw [List.length_map, List.length_map, ← List.map_drop] at hnamed
    have hmember := List.getElem_of_eq hnamed (i := i) (by simpa using hi)
    rw [List.getElem_map, List.getElem_map, if_pos rfl] at hmember
    by_contra hne
    rw [if_neg (Ne.symm hne)] at hmember
    exact hxy hmember
  exact heq ▸ List.drop_suffix _ _

/-- The portions with every byte replaced by its position in all that is written. -/
def numbered : Nat → List (Portion α) → List (Portion Nat)
  | _, [] => []
  | start, p :: rest =>
    ⟨p.time, List.range' start p.bytes.length⟩ :: numbered (start + p.bytes.length) rest

/-- Replacing bytes by their positions leaves moments and sizes. -/
theorem outline_numbered (start : Nat) (portions : List (Portion α)) :
    (numbered start portions).map Portion.outline = portions.map Portion.outline := by
  induction portions generalizing start with
  | nil => rfl
  | cons p rest ih => simp [numbered, ih, Portion.outline, Portion.map]

/-- The positions are the numbers in a row. -/
theorem bytes_numbered (start : Nat) (portions : List (Portion α)) :
    (numbered start portions).flatMap Portion.bytes =
      List.range' start (portions.flatMap Portion.bytes).length := by
  induction portions generalizing start with
  | nil => rfl
  | cons p rest ih =>
    simp [numbered, ih, List.range'_append_1]

/-- Changing bytes leaves the stamps. -/
theorem Chronicle.stamps_map (f : α → β) (g : Chronicle α) : (g.map f).stamps = g.stamps := by
  simp [stamps, map, Function.comp_def]

/-- Changing bytes leaves the number of survivors. -/
theorem Chronicle.length_survivors_map (f : α → β) (g : Chronicle α) :
    (survivors (g.map f).volumes).length = (survivors g.volumes).length := by
  simp [map, survivors_map]

/-- A log without its bytes is what writing portions without bytes leads to. -/
theorem Chronicle.map_after (portions : List (Portion α)) :
    (empty.after portions).map (fun _ => ()) = empty.after (portions.map Portion.outline) :=
  (after_map (fun _ => ()) empty portions).symm

/-- What is written at the same moments in the same sizes is rotated alike. -/
theorem Chronicle.map_after_congr {portions : List (Portion α)} {others : List (Portion β)}
    (h : others.map Portion.outline = portions.map Portion.outline) :
    (empty.after others).map (fun _ => ()) = (empty.after portions).map fun _ => () := by
  rw [map_after, map_after, h]

/-- The stamps depend on the moments and sizes alone. -/
theorem Chronicle.stamps_congr {portions : List (Portion α)} {others : List (Portion β)}
    (h : others.map Portion.outline = portions.map Portion.outline) :
    (empty.after others).stamps = (empty.after portions).stamps := by
  rw [← stamps_map fun _ => (), map_after_congr h, stamps_map]

/-- How many volumes survive depends on the moments and sizes alone. -/
theorem Chronicle.length_survivors_congr {portions : List (Portion α)} {others : List (Portion β)}
    (h : others.map Portion.outline = portions.map Portion.outline) :
    (survivors (empty.after others).volumes).length =
      (survivors (empty.after portions).volumes).length := by
  rw [← length_survivors_map fun _ => (), map_after_congr h, length_survivors_map]

/-- The end of what was written is kept, whatever was written at those moments in those sizes,
exactly if no stamp repeats among the newest volumes, counting as many as survive. -/
theorem kept_isSuffix_iff {γ : Type v} [Nontrivial γ] (portions : List (Portion α)) :
    (∀ others : List (Portion γ), others.map Portion.outline = portions.map Portion.outline →
      (Chronicle.empty.after others).kept <:+ others.flatMap Portion.bytes) ↔
      ((Chronicle.empty.after portions).stamps.take
        (survivors (Chronicle.empty.after portions).volumes).length).Nodup := by
  constructor
  · intro h
    -- Positions do not repeat, so where the kept ones are the last ones no volume in between is
    -- lost.
    let places := numbered 0 portions
    have hplaces : places.map Portion.outline = portions.map Portion.outline :=
      outline_numbered 0 portions
    have hkept : (Chronicle.empty.after places).kept <:+ places.flatMap Portion.bytes := by
      refine @isSuffix_of_forall_map _ γ _ _ _ _ fun f => ?_
      have hothers := h (places.map (·.map f)) (by simpa [Function.comp_def] using hplaces)
      have hempty : (Chronicle.empty : Chronicle γ) = Chronicle.empty.map f := rfl
      rw [hempty, Chronicle.after_map, Chronicle.kept_map] at hothers
      simpa [List.flatMap_map, List.map_flatMap, Portion.map] using hothers
    have hnodup : (places.flatMap Portion.bytes).Nodup := by
      rw [bytes_numbered]
      exact List.nodup_range'
    rw [← Chronicle.bytes_after_empty] at hkept hnodup
    have hfull : ∀ v ∈ (Chronicle.empty.after places).volumes, v.bytes ≠ [] := fun v hv hnil => by
      have hlimit := Chronicle.volumes_full_after _ _ (by simp [Chronicle.empty]) v hv
      simp [hnil] at hlimit
    have hprefix := isPrefix_of_bytes_isSuffix hfull (survivors_sublist _) hnodup.of_append_left
      (List.suffix_append_self_iff.1 hkept)
    rw [← Chronicle.stamps_congr hplaces, ← Chronicle.length_survivors_congr hplaces]
    exact (survivors_isPrefix_iff _).1 hprefix
  · intro h others hothers
    rw [← Chronicle.stamps_congr hothers, ← Chronicle.length_survivors_congr hothers] at h
    rw [← Chronicle.bytes_after_empty]
    exact Chronicle.kept_isSuffix_of_isPrefix ((survivors_isPrefix_iff _).2 h)

end ConfigBrowser.Log
