/-!
# Slices by Bytes

Parts of a text between places that are counted in the bytes of its UTF-8 form. There is no such
part where a place is inside of a character or behind the text.

## Main results

* `slice_append`: a part of a text is cut out again.
-/

namespace ConfigBrowser.Text

/-- The number of bytes of a text. -/
def byteSize : List Char → Nat
  | [] => 0
  | c :: rest => c.utf8Size + byteSize rest

/-- A text without its first bytes. -/
def dropBytes : Nat → List Char → Option (List Char)
  | 0, s => some s
  | _ + 1, [] => none
  | n + 1, c :: rest =>
    if c.utf8Size ≤ n + 1 then dropBytes (n + 1 - c.utf8Size) rest else none

/-- The first bytes of a text. -/
def takeBytes : Nat → List Char → Option (List Char)
  | 0, _ => some []
  | _ + 1, [] => none
  | n + 1, c :: rest =>
    if c.utf8Size ≤ n + 1 then (takeBytes (n + 1 - c.utf8Size) rest).map (c :: ·) else none

/-- The bytes of a text from one place to another one. -/
def slice (first last : Nat) (s : List Char) : Option (List Char) :=
  (dropBytes first s).bind (takeBytes (last - first))

/-- The bytes of a prefix can be dropped. -/
theorem dropBytes_append (s t : List Char) : dropBytes (byteSize s) (s ++ t) = some t := by
  induction s with
  | nil => simp [byteSize, dropBytes]
  | cons c rest ih =>
    obtain ⟨n, hn⟩ := Nat.exists_eq_succ_of_ne_zero (Nat.ne_of_gt c.utf8Size_pos)
    have hsize : byteSize (c :: rest) = n + byteSize rest + 1 := by simp [byteSize, hn]; omega
    have hle : c.utf8Size ≤ n + byteSize rest + 1 := by omega
    have hrest : n + byteSize rest + 1 - c.utf8Size = byteSize rest := by omega
    rw [hsize, List.cons_append, dropBytes, if_pos hle, hrest, ih]

/-- The bytes of a prefix can be taken. -/
theorem takeBytes_append (s t : List Char) : takeBytes (byteSize s) (s ++ t) = some s := by
  induction s with
  | nil => simp [byteSize, takeBytes]
  | cons c rest ih =>
    obtain ⟨n, hn⟩ := Nat.exists_eq_succ_of_ne_zero (Nat.ne_of_gt c.utf8Size_pos)
    have hsize : byteSize (c :: rest) = n + byteSize rest + 1 := by simp [byteSize, hn]; omega
    have hle : c.utf8Size ≤ n + byteSize rest + 1 := by omega
    have hrest : n + byteSize rest + 1 - c.utf8Size = byteSize rest := by omega
    rw [hsize, List.cons_append, takeBytes, if_pos hle, hrest, ih, Option.map_some]

/-- The text between two others is a slice. -/
theorem slice_append (s t u : List Char) :
    slice (byteSize s) (byteSize s + byteSize t) (s ++ t ++ u) = some t := by
  rw [slice, List.append_assoc, dropBytes_append, Nat.add_sub_cancel_left]
  exact takeBytes_append t u

end ConfigBrowser.Text
