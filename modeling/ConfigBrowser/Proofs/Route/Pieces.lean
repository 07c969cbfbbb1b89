import ConfigBrowser.Route.Pattern
import ConfigBrowser.Proofs.Route.Escaping

/-!
# Pieces of Paths

What cutting a path into pieces does to a path that was put together from pieces, and which pieces
have the form `key:value`. Escaping neither makes nor breaks that form, because a key holds no
character that is escaped.

## Main results

* `piecesOf_append_slash`: a slash separates the pieces before it from those behind it.
* `pathPieces_join`: joining pieces and cutting the path gives the pieces back.
* `splitNamed_eq_some_iff`, `splitNamed_eq_none_iff`: which pieces are named, and by what.
* `isNamedForm_encode`: a value has the form `key:value` exactly when its written form has it.
-/

namespace ConfigBrowser.Text

/-- Cutting at a separator that stands in the text cuts both sides of it on their own. -/
theorem splitOn_append_cons (sep : Char) (s t : List Char) :
    splitOn sep (s ++ sep :: t) = splitOn sep s ++ splitOn sep t := by
  induction s with
  | nil => simp [splitOn]
  | cons c rest ih =>
      by_cases hc : c = sep
      · subst hc
        simp [splitOn, ih]
      · obtain ⟨piece, pieces, hrest, hcons⟩ := splitOn_cons_of_ne hc rest
        rw [hrest, List.cons_append] at ih
        rw [List.cons_append, splitOn, if_neg hc, ih, hcons]
        rfl

/-- No piece holds the separator. -/
theorem not_mem_of_mem_splitOn {sep : Char} {s p : List Char} (h : p ∈ splitOn sep s) :
    sep ∉ p := by
  induction s generalizing p with
  | nil =>
      obtain rfl : p = [] := by simpa [splitOn] using h
      exact List.not_mem_nil
  | cons c rest ih =>
      by_cases hc : c = sep
      · rw [splitOn, if_pos hc] at h
        rcases List.mem_cons.1 h with rfl | h
        · exact List.not_mem_nil
        · exact ih h
      · obtain ⟨piece, pieces, hrest, hcons⟩ := splitOn_cons_of_ne hc rest
        rw [hrest] at ih
        rw [hcons] at h
        rcases List.mem_cons.1 h with rfl | h
        · have hpiece : sep ∉ piece := ih List.mem_cons_self
          exact fun hmem => (List.mem_cons.1 hmem).elim (fun e => hc e.symm) hpiece
        · exact ih (List.mem_cons_of_mem _ h)

/-- The characters of a piece are characters of the text. -/
theorem mem_of_mem_splitOn {sep d : Char} {s p : List Char} (hp : p ∈ splitOn sep s)
    (hd : d ∈ p) : d ∈ s := by
  induction s generalizing p with
  | nil =>
      obtain rfl : p = [] := by simpa [splitOn] using hp
      exact hd
  | cons c rest ih =>
      by_cases hc : c = sep
      · rw [splitOn, if_pos hc] at hp
        rcases List.mem_cons.1 hp with rfl | hp
        · exact absurd hd List.not_mem_nil
        · exact List.mem_cons_of_mem _ (ih hp hd)
      · obtain ⟨piece, pieces, hrest, hcons⟩ := splitOn_cons_of_ne hc rest
        rw [hrest] at ih
        rw [hcons] at hp
        rcases List.mem_cons.1 hp with rfl | hp
        · rcases List.mem_cons.1 hd with rfl | hd
          · exact List.mem_cons_self
          · exact List.mem_cons_of_mem _ (ih List.mem_cons_self hd)
        · exact List.mem_cons_of_mem _ (ih (List.mem_cons_of_mem _ hp) hd)

/-- A cut finds the first character of its kind. -/
theorem cut_append {p : Char → Bool} {before : List Char} {c : Char} (hc : p c = true)
    (h : ∀ x ∈ before, p x = false) (after : List Char) :
    cut p (before ++ c :: after) = some (before, after) := by
  induction before with
  | nil => simp [cut, hc]
  | cons x rest ih =>
      have hx : p x = false := h x List.mem_cons_self
      have hrest := ih fun y hy => h y (List.mem_cons_of_mem _ hy)
      simp [cut, hx, hrest]

/-- A text without a character of the kind is not cut. -/
theorem cut_eq_none {p : Char → Bool} {s : List Char} (h : ∀ x ∈ s, p x = false) :
    cut p s = none := by
  induction s with
  | nil => rfl
  | cons x rest ih =>
      have hx : p x = false := h x List.mem_cons_self
      have hrest := ih fun y hy => h y (List.mem_cons_of_mem _ hy)
      simp [cut, hx, hrest]

end ConfigBrowser.Text

namespace ConfigBrowser.Route

/-! ### Cutting and joining -/

/-- The empty path has no pieces. -/
@[simp] theorem piecesOf_nil : piecesOf [] = [] := rfl

/-- A slash separates the pieces before it from those behind it. -/
theorem piecesOf_append_slash (s t : List Char) :
    piecesOf (s ++ '/' :: t) = piecesOf s ++ piecesOf t := by
  simp [piecesOf, Text.splitOn_append_cons]

/-- A slash in front of a path makes no piece. -/
theorem piecesOf_slash_cons (t : List Char) : piecesOf ('/' :: t) = piecesOf t := by
  simpa using piecesOf_append_slash [] t

/-- A piece is not empty and holds no slash. -/
theorem of_mem_piecesOf {s p : List Char} (h : p ∈ piecesOf s) : p ≠ [] ∧ '/' ∉ p := by
  obtain ⟨hmem, hne⟩ := List.mem_filter.1 h
  exact ⟨by simpa using hne, Text.not_mem_of_mem_splitOn hmem⟩

/-- The characters of a piece are characters of the text. -/
theorem mem_of_mem_piecesOf {s p : List Char} {c : Char} (hp : p ∈ piecesOf s) (hc : c ∈ p) :
    c ∈ s :=
  Text.mem_of_mem_splitOn (List.mem_filter.1 hp).1 hc

/-- The first character that is not a slash starts the first piece. -/
theorem exists_piecesOf_of_find {s : List Char} {c : Char}
    (h : s.find? (· ≠ '/') = some c) : ∃ w ws, piecesOf s = (c :: w) :: ws := by
  induction s with
  | nil => simp at h
  | cons d rest ih =>
      by_cases hd : d = '/'
      · subst hd
        rw [piecesOf_slash_cons]
        exact ih (by simpa using h)
      · obtain rfl : d = c := by simpa [List.find?, hd] using h
        obtain ⟨piece, pieces, -, hcons⟩ := Text.splitOn_cons_of_ne hd rest
        exact ⟨piece, pieces.filter (· ≠ []), by simp [piecesOf, hcons]⟩

/-- Joining pieces and cutting the text gives the pieces back. -/
theorem piecesOf_join {ps : List (List Char)} (h : ∀ p ∈ ps, p ≠ [] ∧ '/' ∉ p) :
    piecesOf (['/'].intercalate ps) = ps := by
  cases ps with
  | nil => rfl
  | cons p rest =>
      rw [piecesOf, Text.splitOn_intercalate (List.cons_ne_nil _ _) fun q hq => (h q hq).2]
      exact List.filter_eq_self.2 fun q hq => by simpa using (h q hq).1

/-- Joining pieces and cutting the path gives the pieces back, unless the path begins with a
hash sign. -/
theorem pathPieces_join {c : Char} {p : List Char} {ps : List (List Char)} (hc : c ≠ '#')
    (h : ∀ q ∈ (c :: p) :: ps, q ≠ [] ∧ '/' ∉ q) :
    pathPieces (String.ofList (['/'].intercalate ((c :: p) :: ps))) = (c :: p) :: ps := by
  obtain ⟨t, ht⟩ : ∃ t, ['/'].intercalate ((c :: p) :: ps) = c :: t := by
    cases ps <;> exact ⟨_, rfl⟩
  rw [pathPieces, String.toList_ofList, ht, List.dropWhile_cons_of_neg (by simpa using hc), ← ht]
  exact piecesOf_join h

/-- The pieces of a path are not empty and hold no slash. -/
theorem of_mem_pathPieces {path : String} {p : List Char} (h : p ∈ pathPieces path) :
    p ≠ [] ∧ '/' ∉ p :=
  of_mem_piecesOf h

/-! ### Named pieces -/

/-- Has the text the form `key:value`? No positional parameter takes such a text. -/
def IsNamedForm (s : List Char) : Prop := ∃ key value, isKey key = true ∧ s = key ++ ':' :: value

/-- A character of a key is neither escaped nor a colon. -/
theorem ne_of_isKeyChar {c : Char} (h : isKeyChar c = true) : c ≠ '%' ∧ c ≠ '/' ∧ c ≠ ':' := by
  refine ⟨?_, ?_, ?_⟩ <;> rintro rfl <;> exact absurd h (by decide)

/-- Every character of a key is one that keys may have. -/
theorem isKeyChar_of_mem {key : List Char} (h : isKey key = true) {c : Char} (hc : c ∈ key) :
    isKeyChar c = true := by
  have hall : key.all isKeyChar = true := by
    rw [isKey, Bool.and_eq_true] at h
    exact h.2
  exact List.all_eq_true.1 hall c hc

/-- A key, a colon and a value are split into key and value. -/
theorem splitNamed_of_isKey {key : List Char} (h : isKey key = true) (value : List Char) :
    splitNamed (key ++ ':' :: value) = some (String.ofList key, value) := by
  have hcut : Text.cut (· = ':') (key ++ ':' :: value) = some (key, value) :=
    Text.cut_append (by simp) (fun x hx => by
      simpa using (ne_of_isKeyChar (isKeyChar_of_mem h hx)).2.2) value
  simp [splitNamed, hcut, h]

/-- A piece is named when it is a key, a colon and a value. -/
theorem splitNamed_eq_some_iff {piece value : List Char} {name : String} :
    splitNamed piece = some (name, value) ↔
      ∃ key, isKey key = true ∧ name = String.ofList key ∧ piece = key ++ ':' :: value := by
  constructor
  · intro h
    rw [splitNamed] at h
    split at h
    · next key rest hcut =>
      split at h
      · next hkey =>
        obtain ⟨rfl, rfl⟩ := Prod.mk.inj (Option.some.inj h)
        obtain ⟨c, hc, -, rfl⟩ := Text.eq_append_of_cut hcut
        obtain rfl : c = ':' := by simpa using hc
        exact ⟨key, hkey, rfl, rfl⟩
      · simp at h
    · simp at h
  · rintro ⟨key, hkey, rfl, rfl⟩
    exact splitNamed_of_isKey hkey value

/-- A piece is not named when it does not have the form `key:value`. -/
theorem splitNamed_eq_none_iff {piece : List Char} :
    splitNamed piece = none ↔ ¬ IsNamedForm piece := by
  constructor
  · rintro h ⟨key, value, hkey, rfl⟩
    rw [splitNamed_of_isKey hkey] at h
    simp at h
  · intro h
    rcases hs : splitNamed piece with _ | ⟨name, value⟩
    · rfl
    · obtain ⟨key, hkey, -, rfl⟩ := splitNamed_eq_some_iff.1 hs
      exact absurd ⟨key, value, hkey, rfl⟩ h

instance (s : List Char) : Decidable (IsNamedForm s) :=
  decidable_of_iff ((splitNamed s).isSome = true) (by
    rw [← not_iff_not, ← splitNamed_eq_none_iff, Option.not_isSome_iff_eq_none])

/-- A function that only ever produces a character of a key or a colon from the same character
makes no text `key:value` that was none. -/
theorem isNamedForm_of_reflects {f : List Char → List Char}
    (hf : ∀ {s t : List Char} {c : Char}, c ≠ '%' → c ≠ '/' → f s = c :: t →
      ∃ s', s = c :: s' ∧ f s' = t)
    {s : List Char} (h : IsNamedForm (f s)) : IsNamedForm s := by
  obtain ⟨key, value, hkey, h⟩ := h
  suffices hsplit : ∀ (k : List Char) {s : List Char}, (∀ c ∈ k, isKeyChar c = true) →
      f s = k ++ ':' :: value → ∃ v, s = k ++ ':' :: v by
    obtain ⟨v, rfl⟩ := hsplit key (fun c hc => isKeyChar_of_mem hkey hc) h
    exact ⟨key, v, hkey, rfl⟩
  intro k
  induction k with
  | nil =>
      intro s _ hs
      obtain ⟨v, rfl, -⟩ := hf (by decide) (by decide) hs
      exact ⟨v, rfl⟩
  | cons c k ih =>
      intro s hk hs
      have hc := ne_of_isKeyChar (hk c List.mem_cons_self)
      obtain ⟨s', rfl, hs'⟩ := hf hc.1 hc.2.1 hs
      obtain ⟨v, rfl⟩ := ih (fun x hx => hk x (List.mem_cons_of_mem _ hx)) hs'
      exact ⟨v, rfl⟩

/-- A value has the form `key:value` exactly when its written form has it. -/
theorem isNamedForm_encode {s : List Char} : IsNamedForm (encode s) ↔ IsNamedForm s := by
  constructor
  · exact isNamedForm_of_reflects fun hpercent _ h => eq_cons_of_encode_eq_cons hpercent h
  · rintro ⟨key, value, hkey, rfl⟩
    have hplain : encode key = key := encode_of_plain fun c hc =>
      have hc := ne_of_isKeyChar (isKeyChar_of_mem hkey hc)
      ⟨hc.1, hc.2.1⟩
    refine ⟨key, encode value, hkey, ?_⟩
    rw [encode_append, hplain, encode_cons]
    rfl

/-- A piece whose value has the form `key:value` has it itself. -/
theorem isNamedForm_of_decode {s : List Char} (h : IsNamedForm (decode s)) : IsNamedForm s :=
  isNamedForm_of_reflects eq_cons_of_decode_eq_cons h

end ConfigBrowser.Route
