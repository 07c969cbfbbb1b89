import ConfigBrowser.Proofs.Json.Depth
import ConfigBrowser.Wire.Read
import Mathlib

/-!
# Reading back Records and Variants

A record that is written as an object has the members that its type knows, each once. A variant is
written with its tag in front. Both are read back member by member.

## Main results

* `Wire.members_object`: the members of a record are found again.
* `Wire.tagged_object`: the tag of a variant is told from its members.
* `Wire.parse_compact`: a value that stands around a payload is read back from its text, unless the
  payload nests too deep.
-/

namespace ConfigBrowser

/-- Every item is read back from what was made of it, so all of them are. -/
theorem mapM_map_eq_some {α β : Type} {encode : α → β} {read : β → Option α} {items : List α}
    (h : ∀ a ∈ items, read (encode a) = some a) : (items.map encode).mapM read = some items := by
  induction items with
  | nil => rfl
  | cons a items ih =>
      obtain ⟨ha, hitems⟩ := List.forall_mem_cons.1 h
      simp [ha, ih hitems]

namespace Wire

/-! ### Values -/

/-- An integer is read if it is one between the bounds. -/
theorem integer_eq_some_iff {low high i : Int} {j : Json} :
    integer low high j = some i ↔ j = .int i ∧ low ≤ i ∧ i ≤ high := by
  cases j <;> grind [integer]

/-- A count is read if it is a natural number below the bound. -/
theorem count_eq_some_iff {bound n : Nat} {j : Json} :
    count bound j = some n ↔ j = .ofNat n ∧ n < bound := by
  rw [count.eq_def, Json.ofNat]
  split
  · next m =>
    simp only [Json.int.injEq]
    grind
  · next hother =>
    refine iff_of_false (by simp) fun h => hother n h.1

/-- A list is read back if its items are. -/
theorem list_ofList {α : Type} {encode : α → Json} {read : Json → Option α} {items : List α}
    (h : ∀ a ∈ items, read (encode a) = some a) : list read (.ofList encode items) = some items :=
  mapM_map_eq_some h

/-! ### Records -/

/-- No key is repeated where all keys are different. -/
theorem hasRepeatedKey_eq_false_iff {fields : List (String × Json)} :
    hasRepeatedKey fields = false ↔ (fields.map Prod.fst).Nodup := by
  induction fields with
  | nil => simp [hasRepeatedKey]
  | cons e fields ih =>
      rw [hasRepeatedKey, Bool.or_eq_false_iff, ih, List.map_cons, List.nodup_cons,
        List.any_eq_false, List.mem_map]
      simp only [decide_eq_true_eq, not_exists, not_and]

/-- Known members that come once each are the members of their record. -/
theorem members_object {known : List String} {fields : List (String × Json)}
    (hknown : ∀ e ∈ fields, e.1 ∈ known) (hnodup : (fields.map Prod.fst).Nodup) :
    members known (.object fields) = some ⟨fields, false⟩ := by
  have hall : fields.filter (fun e => known.contains e.1) = fields := by
    simpa [List.filter_eq_self] using hknown
  simp only [members, hall, hasRepeatedKey_eq_false_iff.2 hnodup, Bool.false_eq_true, if_false]

/-- The only member of a record is read where it stands. -/
theorem single_object {α : Type} (key : String) (read : Json → Option α) (value : Json) :
    single key read (.object [(key, value)]) = read value := by
  rw [single, members_object (by simp) (by simp)]
  simp [required]

/-- The tag of a variant is told from its members. -/
theorem tagged_object {tag name : String} {variants : List String} {nested : Bool}
    {fields : List (String × Json)} (h : ∀ e ∈ fields, e.1 ≠ tag) :
    tagged tag variants nested (.object ((tag, .string name) :: fields)) =
      some (name, .object fields) := by
  have htag : ((tag, Json.string name) :: fields).filter (·.1 = tag) = [(tag, .string name)] := by
    simpa using h
  have hrest : ((tag, Json.string name) :: fields).filter (fun e => e.1 ≠ tag) = fields := by
    simpa using h
  simp only [tagged, htag, hrest, tagName, Option.map_some]

end Wire

namespace Json

/-! ### Values that are read back as a whole -/

section Whole

variable {depth : Nat}

/-- The value without content is read back. -/
@[simp] theorem readable_null : Readable depth .whole .null := trivial

/-- A truth value is read back. -/
@[simp] theorem readable_bool (b : Bool) : Readable depth .whole (.bool b) := trivial

/-- A string is read back. -/
@[simp] theorem readable_string (s : String) : Readable depth .whole (.string s) := trivial

/-- A list is read back if its items are, one level deeper. -/
theorem readable_array_iff {items : List Json} :
    Readable (depth + 2) .whole (.array items) ↔
      ∀ item ∈ items, Readable (depth + 1) .whole item := by
  have hitems : ReadableItems (depth + 1) .whole items ↔
      ∀ item ∈ items, Readable (depth + 1) .whole item := by
    induction items with
    | nil => simp [ReadableItems]
    | cons item items ih => simp [ReadableItems, Shape.uncons, ih]
  simpa [Readable] using hitems

/-- An object is read back if its members are, one level deeper. -/
theorem readable_object_iff {fields : List (String × Json)} :
    Readable (depth + 2) .whole (.object fields) ↔
      ∀ e ∈ fields, Readable (depth + 1) .whole e.2 := by
  have hfields : ReadableFields (depth + 1) .whole fields ↔
      ∀ e ∈ fields, Readable (depth + 1) .whole e.2 := by
    induction fields with
    | nil => simp [ReadableFields]
    | cons e fields ih => simp [ReadableFields, Shape.member?, ih]
  simpa [Readable] using hfields

/-- A natural number of 64 bits is read back. -/
theorem readable_ofNat {n : Nat} (h : n < UInt64.size) : Readable depth .whole (.ofNat n) := by
  have hbounds : -(UInt64.size / 2 : Nat) ≤ (n : Int) ∧ (n : Int) < UInt64.size := by omega
  exact hbounds

/-- A list of forms is read back if each form is. -/
theorem readable_ofList {α : Type} {encode : α → Json} {items : List α}
    (h : ∀ a ∈ items, Readable (depth + 1) .whole (encode a)) :
    Readable (depth + 2) .whole (.ofList encode items) :=
  readable_array_iff.2 (List.forall_mem_map.2 h)

/-- A map of strings is read back. -/
theorem readable_ofStrings (m : SortedMap String String) :
    Readable (depth + 2) .whole (.ofStrings m) :=
  readable_object_iff.2 (List.forall_mem_map.2 fun _ _ => trivial)

end Whole

end Json

/-- A value that stands around a payload is read back from its text exactly if the payload leaves
room for what stands around it. Its own parts do not nest deep. -/
theorem Wire.parse_compact {α : Type} {read : Json → Option α} {a : α} {j payload : Json}
    (around : Nat) (hread : read j = some a) (hpayload : payload.Integral)
    (hiff : ∀ depth, 7 ≤ depth →
      (Json.Readable (depth + around) .whole j ↔ Json.Readable depth .whole payload))
    (haround : around ≤ 7) :
    Wire.parse .whole read j.compact =
      if payload.nesting + around < Json.depthLimit then some a else none := by
  have hreadable : ∀ depth, 7 ≤ depth →
      (Json.Readable (depth + around) .whole j ↔ payload.nesting < depth) := fun depth hdepth =>
    (hiff depth hdepth).trans
      ((Json.readable_whole_iff (by omega) payload).trans (and_iff_right hpayload))
  have hj : j.Integral := by
    have hdeep := (hreadable (payload.nesting + 7) (by omega)).2 (by omega)
    exact ((Json.readable_whole_iff (by omega) j).1 hdeep).1
  have hnesting : j.nesting < Json.depthLimit ↔ payload.nesting + around < Json.depthLimit := by
    have hlimit : around + 7 ≤ Json.depthLimit := by
      rw [Json.depthLimit]
      omega
    have hiff := hreadable (Json.depthLimit - around) (by omega)
    rwa [Nat.sub_add_cancel (by omega), Json.readable_whole_iff (by decide), and_iff_right hj,
      Nat.lt_sub_iff_add_lt] at hiff
  change (Json.parse j.compact).bind read = _
  rw [Json.parse_compact hj]
  simp only [hnesting]
  split
  · exact hread
  · rfl

end ConfigBrowser
