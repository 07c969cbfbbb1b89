/-!
# Depth of Nesting

What is read from a text with brackets in it is kept together with its depth, so that what is nested
too deeply can be refused.

## Main results

* `Nested.depth_lt_depth_wrap`: what is built from parts is deeper than each of them.
-/

namespace ConfigBrowser.Text

/-- Something that was read, and how deep the constructs in it are nested. -/
structure Nested (α : Type) where
  value : α
  depth : Nat
deriving DecidableEq, Repr

namespace Nested

/-- What has no parts. -/
def flat {α : Type} (value : α) : Nested α := ⟨value, 0⟩

/-- The greatest depth among parts. -/
def greatest {β : Type} : List (Nested β) → Nat
  | [] => 0
  | part :: rest => max part.depth (greatest rest)

/-- What is built from parts. -/
def wrap {α β : Type} (value : α) (parts : List (Nested β)) : Nested α :=
  ⟨value, greatest parts + 1⟩

/-- Several parts as one, which is the part itself if there is only one. -/
def gather {α : Type} (join : List α → α) : List (Nested α) → Nested α
  | [] => flat (join [])
  | [part] => part
  | parts => wrap (join (parts.map Nested.value)) parts

/-- No part is deeper than the deepest. -/
theorem depth_le_greatest {β : Type} {part : Nested β} {parts : List (Nested β)}
    (h : part ∈ parts) : part.depth ≤ greatest parts := by
  induction parts with
  | nil => simp at h
  | cons first rest ih =>
    rcases List.mem_cons.1 h with rfl | h
    · exact Nat.le_max_left _ _
    · exact Nat.le_trans (ih h) (Nat.le_max_right _ _)

/-- Flat parts have no depth. -/
theorem greatest_map_flat {α : Type} (values : List α) : greatest (values.map flat) = 0 := by
  induction values with
  | nil => rfl
  | cons value rest ih => simp [greatest, flat, ih]

/-- Flat parts that are gathered are one level deep at most. -/
theorem depth_gather_flat {α : Type} (join : List α → α) (values : List α) :
    (gather join (values.map flat)).depth ≤ 1 := by
  match values with
  | [] => exact Nat.zero_le 1
  | [value] => exact Nat.zero_le 1
  | first :: second :: rest =>
    exact Nat.le_of_eq (congrArg (· + 1) (greatest_map_flat (first :: second :: rest)))

/-- Flat parts are gathered into their joined values. -/
theorem value_gather_flat {α : Type} {join : List α → α} {values : List α}
    (hjoin : ∀ value ∈ values, join [value] = value) :
    (gather join (values.map flat)).value = join values := by
  match values with
  | [] => rfl
  | [value] => exact (hjoin value List.mem_cons_self).symm
  | first :: second :: rest => simp [gather, wrap, flat, Function.comp_def]

/-- Wrapping makes every part one level deeper. -/
theorem depth_lt_depth_wrap {α β : Type} {part : Nested β} {parts : List (Nested β)}
    (h : part ∈ parts) (value : α) : part.depth < (wrap value parts).depth :=
  Nat.lt_succ_of_le (depth_le_greatest h)

end Nested

end ConfigBrowser.Text
