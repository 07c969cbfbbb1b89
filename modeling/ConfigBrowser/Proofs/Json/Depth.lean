import ConfigBrowser.Proofs.Json.RoundTrip
import Mathlib

/-!
# How Deep JSON Values Nest

The reader is given a depth that a value has to stay below. The depth decides only whether a text is
read, never what is read from it: with more depth every text that was read is read as the same
value. So a value without floats, all of whose integers fit 64 bits, is read back from its text
exactly when it nests less deep than the reader allows.

## Main results

* `Json.readable_whole_iff`: which values are read back as a whole.
* `Json.readValue_deeper`: what is read stays below the depth, and more depth makes no difference.
* `Json.parse_compact`: a value is read back from its text, unless it nests too deep.
-/

namespace ConfigBrowser.Json

mutual

/-- How deep arrays and objects nest in a value. -/
def nesting : Json → Nat
  | .array items => nestingItems items + 1
  | .object fields => nestingFields fields + 1
  | _ => 0

/-- How deep the deepest of several items nests. -/
def nestingItems : List Json → Nat
  | [] => 0
  | item :: items => max (nesting item) (nestingItems items)

/-- How deep the deepest of several members nests. -/
def nestingFields : List (String × Json) → Nat
  | [] => 0
  | (_, value) :: fields => max (nesting value) (nestingFields fields)

end

mutual

/-- Are all numbers of a value integers that fit 64 bits, signed or unsigned? -/
def Integral : Json → Prop
  | .int i => -(UInt64.size / 2 : Nat) ≤ i ∧ i < UInt64.size
  | .float _ => False
  | .array items => IntegralItems items
  | .object fields => IntegralFields fields
  | _ => True

/-- Are all numbers of an array's items such integers? -/
def IntegralItems : List Json → Prop
  | [] => True
  | item :: items => Integral item ∧ IntegralItems items

/-- Are all numbers of an object's members such integers? -/
def IntegralFields : List (String × Json) → Prop
  | [] => True
  | (_, value) :: fields => Integral value ∧ IntegralFields fields

end

/-! ### Values that are read back as a whole -/

mutual

/-- A value is read back as a whole if its numbers are integers and it does not nest too deep. -/
theorem readable_whole_iff {depth : Nat} (hdepth : 0 < depth) : (j : Json) →
    (Readable depth .whole j ↔ j.Integral ∧ j.nesting < depth)
  | .null | .bool _ | .string _ => by simp [Readable, Integral, nesting, hdepth]
  | .int _ => by simp only [Readable, Integral, nesting, hdepth, and_true]
  | .float _ => by simp [Readable, Integral]
  | .array items => by
      by_cases hlt : 1 < depth
      · have hitems := readableItems_whole_iff (Nat.sub_pos_of_lt hlt) items
        simp only [Readable, Integral, nesting, hlt, hitems, true_and, Nat.lt_sub_iff_add_lt]
      · simp only [Readable, nesting, hlt, false_and, false_iff, not_and]
        omega
  | .object fields => by
      by_cases hlt : 1 < depth
      · have hfields := readableFields_whole_iff (Nat.sub_pos_of_lt hlt) fields
        simp only [Readable, Integral, nesting, hlt, hfields, true_and, Nat.lt_sub_iff_add_lt]
      · simp only [Readable, nesting, hlt, false_and, false_iff, not_and]
        omega

/-- Items are read back as a whole if each is and none nests too deep. -/
theorem readableItems_whole_iff {depth : Nat} (hdepth : 0 < depth) : (items : List Json) →
    (ReadableItems depth .whole items ↔ IntegralItems items ∧ nestingItems items < depth)
  | [] => by simp [ReadableItems, IntegralItems, nestingItems, hdepth]
  | item :: items => by
      have hitem := readable_whole_iff hdepth item
      have hitems := readableItems_whole_iff hdepth items
      simp only [ReadableItems, IntegralItems, nestingItems, Shape.uncons, hitem, hitems,
        max_lt_iff]
      tauto

/-- Members are read back as a whole if each is and none nests too deep. -/
theorem readableFields_whole_iff {depth : Nat} (hdepth : 0 < depth) :
    (fields : List (String × Json)) →
      (ReadableFields depth .whole fields ↔ IntegralFields fields ∧ nestingFields fields < depth)
  | [] => by simp [ReadableFields, IntegralFields, nestingFields, hdepth]
  | (key, value) :: fields => by
      have hvalue := readable_whole_iff hdepth value
      have hfields := readableFields_whole_iff hdepth fields
      simp only [ReadableFields, IntegralFields, nestingFields, Shape.member?, Option.some.injEq,
        exists_eq_left', hvalue, hfields, max_lt_iff]
      tauto

end

/-! ### Depth and reading -/

/-- A number in scientific form does not nest. -/
theorem nesting_of_toJson? {x : Scientific} {negative : Bool} {exponent : Int} {j : Json}
    (h : x.toJson? negative exponent = some j) : j.nesting = 0 := by
  obtain ⟨f, -, rfl⟩ := Option.map_eq_some_iff.1 h
  rfl

/-- An integer does not nest. -/
theorem nesting_of_integer {negative : Bool} {digits : List Nat} {j : Json}
    (h : integer negative digits = some j) : j.nesting = 0 := by
  rw [integer] at h
  split at h <;> split at h
  · obtain rfl := Option.some.inj h
    rfl
  · exact nesting_of_toJson? h
  · obtain rfl := Option.some.inj h
    rfl
  · exact nesting_of_toJson? h

/-- What is read behind the digits of a number does not nest. -/
theorem nesting_of_readScale {negative : Bool} {x : Scientific} {s rest : List Char} {j : Json}
    (h : readScale negative x s = some (j, rest)) : j.nesting = 0 := by
  rw [readScale.eq_def] at h
  split at h
  · simp only [bind, pure, Option.bind_eq_some_iff, Option.some.injEq, Prod.mk.injEq] at h
    obtain ⟨_, -, _, hj, rfl, -⟩ := h
    exact nesting_of_toJson? hj
  · simp only [bind, pure, Option.bind_eq_some_iff, Option.some.injEq, Prod.mk.injEq] at h
    obtain ⟨_, -, _, hj, rfl, -⟩ := h
    exact nesting_of_toJson? hj
  · simp only [Option.map_eq_some_iff, Prod.mk.injEq] at h
    obtain ⟨_, hj, rfl, -⟩ := h
    exact nesting_of_toJson? hj

/-- What is read behind the sign of a number does not nest. -/
theorem nesting_of_readMagnitude {negative : Bool} {s rest : List Char} {j : Json}
    (h : readMagnitude negative s = some (j, rest)) : j.nesting = 0 := by
  rw [readMagnitude] at h
  split at h
  · cases h
  · cases h
  · split at h
    · split at h
      · cases h
      · exact nesting_of_readScale h
    · exact nesting_of_readScale h
    · exact nesting_of_readScale h
    · simp only [Option.map_eq_some_iff, Prod.mk.injEq] at h
      obtain ⟨_, hj, rfl, -⟩ := h
      exact nesting_of_integer hj

/-- A number does not nest. -/
theorem nesting_of_readNumber {s rest : List Char} {j : Json}
    (h : readNumber s = some (j, rest)) : j.nesting = 0 := by
  rw [readNumber.eq_def] at h
  split at h <;> exact nesting_of_readMagnitude h

/-- Members nest as deep as the deepest of both parts. -/
theorem nestingFields_append (fields more : List (String × Json)) :
    nestingFields (fields ++ more) = max (nestingFields fields) (nestingFields more) := by
  induction fields with
  | nil => simp [nestingFields]
  | cons e fields ih => rw [List.cons_append, nestingFields, nestingFields, ih, max_assoc]

/-- What is read as a word is the value of that word. -/
theorem eq_of_readWord {word s rest : List Char} {value j : Json}
    (h : readWord word value s = some (j, rest)) : j = value := by
  rw [readWord] at h
  split at h
  · exact (Prod.mk.inj (Option.some.inj h)).1.symm
  · cases h

mutual

/-- A value that is read nests less deep than the reader allows, and more depth makes no
difference. -/
theorem readValue_deeper : {fuel depth : Nat} → {shape : Shape} → {s rest : List Char} →
    {j : Json} → 0 < depth → readValue fuel depth shape s = some (j, rest) →
      j.nesting < depth ∧ ∀ more, readValue fuel (depth + more) shape s = some (j, rest)
  | 0, _, _, _, _, _, _, h => by cases h
  | fuel + 1, depth, shape, s, rest, j, hdepth, h => by
      simp only [readValue] at h ⊢
      split at h
      · exact ⟨by rwa [eq_of_readWord h], fun _ => h⟩
      · exact ⟨by rwa [eq_of_readWord h], fun _ => h⟩
      · exact ⟨by rwa [eq_of_readWord h], fun _ => h⟩
      · refine ⟨?_, fun _ => h⟩
        simp only [Option.map_eq_some_iff, Prod.mk.injEq] at h
        obtain ⟨_, -, rfl, -⟩ := h
        exact hdepth
      · split at h
        · cases h
        · cases h
        · next depth hne =>
          obtain ⟨depth, rfl⟩ : ∃ d, depth = d + 1 := Nat.exists_eq_succ_of_ne_zero hne
          simp only [Nat.succ_eq_add_one, Nat.add_right_comm _ 1]
          split at h
          · obtain ⟨rfl, rfl⟩ := Prod.mk.inj (Option.some.inj h)
            exact ⟨by simp [nesting, nestingItems], fun _ => rfl⟩
          · simp only [Option.map_eq_some_iff, Prod.mk.injEq] at h
            obtain ⟨⟨items, _⟩, hitems, rfl, rfl⟩ := h
            obtain ⟨hnest, hmore⟩ := readItems_deeper (Nat.succ_pos _) hitems
            refine ⟨by simpa [nesting] using hnest, fun more => ?_⟩
            rw [Nat.add_right_comm, hmore more]
            rfl
      · split at h
        · cases h
        · cases h
        · next depth hne =>
          obtain ⟨depth, rfl⟩ : ∃ d, depth = d + 1 := Nat.exists_eq_succ_of_ne_zero hne
          simp only [Nat.succ_eq_add_one, Nat.add_right_comm _ 1]
          split at h
          · obtain ⟨rfl, rfl⟩ := Prod.mk.inj (Option.some.inj h)
            exact ⟨by simp [nesting, nestingFields], fun _ => rfl⟩
          · simp only [Option.map_eq_some_iff, Prod.mk.injEq] at h
            obtain ⟨⟨fields, _⟩, hfields, rfl, rfl⟩ := h
            obtain ⟨hnest, hmore⟩ := readFields_deeper (Nat.succ_pos _) hfields
            refine ⟨by simpa [nesting] using hnest, fun more => ?_⟩
            rw [Nat.add_right_comm, hmore more]
            rfl
      · exact ⟨by rwa [nesting_of_readNumber h], fun _ => h⟩

/-- Items that are read stay below the depth, and more depth makes no difference. -/
theorem readItems_deeper : {fuel depth : Nat} → {shape : Shape} → {s rest : List Char} →
    {items : List Json} → 0 < depth → readItems fuel depth shape s = some (items, rest) →
      nestingItems items < depth ∧
        ∀ more, readItems fuel (depth + more) shape s = some (items, rest)
  | 0, _, _, _, _, _, _, h => by cases h
  | fuel + 1, depth, shape, s, rest, items, hdepth, h => by
      simp only [readItems, bind, Option.bind_eq_some_iff, pure] at h ⊢
      obtain ⟨⟨item, t⟩, hitem, h⟩ := h
      obtain ⟨hnest, hmore⟩ := readValue_deeper hdepth hitem
      simp only at h
      split at h
      · next heq =>
        simp only [Option.bind_eq_some_iff, Option.some.injEq, Prod.mk.injEq] at h
        obtain ⟨⟨items, u⟩, hitems, rfl, rfl⟩ := h
        obtain ⟨hnests, hmores⟩ := readItems_deeper hdepth hitems
        refine ⟨max_lt hnest hnests, fun more => ⟨_, hmore more, ?_⟩⟩
        simp [heq, hmores more]
      · next heq =>
        obtain ⟨rfl, rfl⟩ := Prod.mk.inj (Option.some.inj h)
        refine ⟨max_lt hnest hdepth, fun more => ⟨_, hmore more, ?_⟩⟩
        simp [heq]
      · cases h

/-- Members that are read stay below the depth, and more depth makes no difference. -/
theorem readFields_deeper : {fuel depth : Nat} → {shape : Shape} → {s rest : List Char} →
    {fields : List (String × Json)} → 0 < depth →
      readFields fuel depth shape s = some (fields, rest) →
      nestingFields fields < depth ∧
        ∀ more, readFields fuel (depth + more) shape s = some (fields, rest)
  | 0, _, _, _, _, _, _, h => by cases h
  | fuel + 1, depth, shape, s, rest, fields, hdepth, h => by
      -- Wanted or passed over, a member is followed by further members or by the end.
      have hafter : ∀ (field : List (String × Json)) (t : List Char),
          (match skipGap t with
            | ',' :: t => (readFields fuel depth shape t).bind fun r => some (field ++ r.1, r.2)
            | '}' :: t => some (field, t)
            | _ => none) = some (fields, rest) →
          (nestingFields field < depth → nestingFields fields < depth) ∧ ∀ more,
            (match skipGap t with
              | ',' :: t =>
                (readFields fuel (depth + more) shape t).bind fun r => some (field ++ r.1, r.2)
              | '}' :: t => some (field, t)
              | _ => none) = some (fields, rest) := by
        intro field t h
        split at h
        · simp only [Option.bind_eq_some_iff, Option.some.injEq, Prod.mk.injEq] at h ⊢
          obtain ⟨⟨others, u⟩, hothers, rfl, rfl⟩ := h
          obtain ⟨hnest, hmore⟩ := readFields_deeper hdepth hothers
          exact ⟨fun hfield => by rw [nestingFields_append]; exact max_lt hfield hnest,
            fun more => ⟨_, hmore more, rfl, rfl⟩⟩
        · obtain ⟨rfl, rfl⟩ := Prod.mk.inj (Option.some.inj h)
          exact ⟨id, fun _ => rfl⟩
        · cases h
      simp only [readFields, bind, pure] at h ⊢
      split at h
      · simp only [Option.bind_eq_some_iff] at h ⊢
        obtain ⟨⟨key, t⟩, hkey, h⟩ := h
        simp only at h
        split at h
        · next heq =>
          simp only [hkey, Option.some.injEq, exists_eq_left', heq]
          split at h
          · next wanted _ =>
            simp only [Option.bind_eq_some_iff, Option.map_eq_some_iff] at h ⊢
            obtain ⟨_, ⟨⟨value, u⟩, hvalue, rfl⟩, h⟩ := h
            obtain ⟨hnest, hmore⟩ := readValue_deeper hdepth hvalue
            obtain ⟨hfields, hmores⟩ := hafter [(key, value)] u h
            exact ⟨hfields (max_lt hnest hdepth), fun more =>
              ⟨_, ⟨_, hmore more, rfl⟩, hmores more⟩⟩
          · simp only [Option.bind_eq_some_iff, Option.map_eq_some_iff] at h ⊢
            obtain ⟨_, ⟨u, hpass, rfl⟩, h⟩ := h
            obtain ⟨hfields, hmores⟩ := hafter [] u h
            exact ⟨hfields hdepth, fun more => ⟨_, ⟨_, hpass, rfl⟩, hmores more⟩⟩
        · cases h
      · cases h

end

/-- A value that nests too deep is not read back: a reader that allows more depth reads nothing else
than the value. -/
theorem parse_compact_eq_none {j : Json} (hj : j.Integral) (hdeep : depthLimit ≤ j.nesting) :
    parse j.compact = none := by
  by_contra hne
  obtain ⟨k, hk⟩ := Option.ne_none_iff_exists'.1 hne
  rw [parse, parseAs, compact, String.toList_ofList, ← spell_compact 0, parseChars] at hk
  obtain ⟨⟨value, rest⟩, hread, -⟩ := Option.bind_eq_some_iff.1 hk
  have hlimit : 0 < depthLimit := by decide
  obtain ⟨hnest, hmore⟩ := readValue_deeper hlimit hread
  have hreadable : Readable (depthLimit + j.nesting) .whole j :=
    (readable_whole_iff (Nat.add_pos_left hlimit _) j).2 ⟨hj, Nat.lt_add_of_pos_left hlimit⟩
  have hwhole : readValue ((spell .compact 0 j).length + 1) (depthLimit + j.nesting) .whole
      (spell .compact 0 j ++ []) = some (j, []) :=
    readValue_spell .compact 0 _ .whole j hreadable le_rfl (by simp [EndsNumber])
  rw [List.append_nil, hmore, Option.some.injEq, Prod.mk.injEq] at hwhole
  exact absurd hdeep (Nat.not_le.2 (hwhole.1 ▸ hnest))

/-- A value whose numbers are integers is read back from its text exactly if it nests less deep than
the reader allows. -/
theorem parse_compact {j : Json} (hj : j.Integral) :
    parse j.compact = if j.nesting < depthLimit then some j else none := by
  split
  · next hlt => exact parseAs_compact ((readable_whole_iff (by decide) j).2 ⟨hj, hlt⟩)
  · next hge => exact parse_compact_eq_none hj (Nat.not_lt.1 hge)

end ConfigBrowser.Json
