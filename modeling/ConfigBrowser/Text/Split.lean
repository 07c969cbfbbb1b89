/-!
# Splitting Text

Cutting a text at separators: at every one of them, at the first, or into lines.

## Main results

* `intercalate_splitOn`: the pieces joined by the separator give the text again.
* `splitOn_intercalate`: pieces without the separator survive joining and cutting.
* `eq_append_of_cut`: a cut removes one separator and nothing else.
-/

namespace ConfigBrowser.Text

/-- The pieces between the separators. There is one more piece than there are separators. -/
def splitOn (sep : Char) : List Char → List (List Char)
  | [] => [[]]
  | c :: rest =>
    if c = sep then [] :: splitOn sep rest
    else
      match splitOn sep rest with
      | [] => [[c]]
      | piece :: pieces => (c :: piece) :: pieces

/-- The text before and after the first character that satisfies a condition. -/
def cut (p : Char → Bool) : List Char → Option (List Char × List Char)
  | [] => none
  | c :: rest =>
    if p c then some ([], rest) else (cut p rest).map fun (before, after) => (c :: before, after)

/-- A line without the carriage return that stood before its line feed. -/
def dropReturn (line : List Char) : List Char :=
  if line.getLast? = some '\r' then line.dropLast else line

/-- Every piece but the last without its carriage return; an empty last piece is no line. -/
def linesOf : List (List Char) → List (List Char)
  | [] => []
  | [last] => if last = [] then [] else [last]
  | line :: rest => dropReturn line :: linesOf rest

/-- The lines of a text, which end at a line feed or a carriage return with a line feed. -/
def lines (s : List Char) : List (List Char) := linesOf (splitOn '\n' s)

/-! ### Laws -/

/-- There is one piece at least. -/
theorem splitOn_ne_nil (sep : Char) (s : List Char) : splitOn sep s ≠ [] := by
  cases s with
  | nil => simp [splitOn]
  | cons c rest =>
    rw [splitOn]
    split
    · simp
    · split <;> simp

/-- A character that is no separator belongs to the first piece. -/
theorem splitOn_cons_of_ne {sep c : Char} (h : c ≠ sep) (s : List Char) :
    ∃ piece pieces, splitOn sep s = piece :: pieces ∧
      splitOn sep (c :: s) = (c :: piece) :: pieces := by
  match hs : splitOn sep s with
  | [] => exact absurd hs (splitOn_ne_nil sep s)
  | piece :: pieces => exact ⟨piece, pieces, rfl, by simp [splitOn, h, hs]⟩

/-- The pieces joined by the separator give the text again. -/
theorem intercalate_splitOn (sep : Char) (s : List Char) :
    [sep].intercalate (splitOn sep s) = s := by
  induction s with
  | nil => simp [splitOn, List.intercalate]
  | cons c rest ih =>
    by_cases h : c = sep
    · subst h
      match hs : splitOn c rest with
      | [] => exact absurd hs (splitOn_ne_nil c rest)
      | piece :: pieces =>
        rw [hs] at ih
        simp only [splitOn, hs, List.intercalate, if_pos] at ih ⊢
        simpa using ih
    · obtain ⟨piece, pieces, hs, hc⟩ := splitOn_cons_of_ne h rest
      rw [hs] at ih
      rw [hc]
      cases pieces with
      | nil => simpa [List.intercalate] using ih
      | cons p ps => simpa [List.intercalate, List.intersperse] using ih

/-- A text without the separator is one piece. -/
theorem splitOn_of_not_mem {sep : Char} {s : List Char} (h : sep ∉ s) : splitOn sep s = [s] := by
  induction s with
  | nil => rfl
  | cons c rest ih =>
    have hc : c ≠ sep := fun e => h (e ▸ List.mem_cons_self)
    have hrest : sep ∉ rest := fun m => h (List.mem_cons_of_mem _ m)
    simp [splitOn, hc, ih hrest]

/-- A piece ends at the first separator. -/
theorem splitOn_append_sep {sep : Char} {s : List Char} (h : sep ∉ s) (t : List Char) :
    splitOn sep (s ++ sep :: t) = s :: splitOn sep t := by
  induction s with
  | nil => simp [splitOn]
  | cons c rest ih =>
    have hc : c ≠ sep := fun e => h (e ▸ List.mem_cons_self)
    have hrest : sep ∉ rest := fun m => h (List.mem_cons_of_mem _ m)
    simp [splitOn, hc, ih hrest]

/-- Pieces without the separator survive joining and cutting. -/
theorem splitOn_intercalate {sep : Char} {pieces : List (List Char)} (hne : pieces ≠ [])
    (h : ∀ p ∈ pieces, sep ∉ p) : splitOn sep ([sep].intercalate pieces) = pieces := by
  induction pieces with
  | nil => exact absurd rfl hne
  | cons p ps ih =>
    cases ps with
    | nil => simpa [List.intercalate] using splitOn_of_not_mem (h p (by simp))
    | cons q qs =>
      have hrec := ih (by simp) fun x hx => h x (List.mem_cons_of_mem _ hx)
      have := splitOn_append_sep (h p (by simp)) ([sep].intercalate (q :: qs))
      rw [hrec] at this
      simpa [List.intercalate, List.intersperse] using this

/-- A cut removes one separator, the first one, and nothing else. -/
theorem eq_append_of_cut {p : Char → Bool} {s before after : List Char}
    (h : cut p s = some (before, after)) :
    ∃ c, p c ∧ (∀ x ∈ before, p x = false) ∧ s = before ++ c :: after := by
  induction s generalizing before with
  | nil => simp [cut] at h
  | cons c rest ih =>
    rw [cut] at h
    split at h
    · next hc =>
      obtain ⟨rfl, rfl⟩ : [] = before ∧ rest = after := by simpa using h
      exact ⟨c, hc, by simp, rfl⟩
    · next hc =>
      obtain ⟨⟨b, a⟩, hcut, heq⟩ := Option.map_eq_some_iff.1 h
      obtain ⟨rfl, rfl⟩ : c :: b = before ∧ a = after := by simpa using heq
      obtain ⟨d, hd, hb, rfl⟩ := ih hcut
      exact ⟨d, hd, by simpa using ⟨by simpa using hc, hb⟩, rfl⟩

end ConfigBrowser.Text
