import ConfigBrowser.Route.Escape
import Mathlib

/-!
# Written Forms of Values

Reading takes every text, also one with a slash, with the lower case escape `%2f` or with a percent
sign that begins no escape. Writing makes none of these, so what it makes can be told by looking at
the text: `WellEscaped`. These are the texts that come back when they are read and written again.

## Main results

* `encode_decode_eq_iff`: a text that is read and written again comes back exactly when it is well
  escaped.
* `wellEscaped_encode`: written forms are well escaped.
* `written_forms_exact`: writing and reading undo each other, on all strings one way and on the
  well escaped ones the other way.
-/

namespace ConfigBrowser.Route

/-! ### Writing and reading, character by character -/

/-- The empty text is escaped as itself. -/
@[simp] theorem encode_nil : encode [] = [] := rfl

/-- A text is escaped part by part. -/
theorem encode_append (s t : List Char) : encode (s ++ t) = encode s ++ encode t := by
  simp [encode]

/-- A percent sign is escaped. -/
theorem encode_percent_cons (s : List Char) :
    encode ('%' :: s) = '%' :: '2' :: '5' :: encode s := by
  rw [encode_cons]
  rfl

/-- A slash is escaped. -/
theorem encode_slash_cons (s : List Char) :
    encode ('/' :: s) = '%' :: '2' :: 'F' :: encode s := by
  rw [encode_cons]
  rfl

/-- Every other character is written as it is. -/
theorem encode_cons_of_ne {c : Char} (hpercent : c ≠ '%') (hslash : c ≠ '/') (s : List Char) :
    encode (c :: s) = c :: encode s := by
  rw [encode_cons, encodeChar_of_ne hpercent hslash]
  rfl

/-- A text without percent signs and slashes is its own written form. -/
theorem encode_of_plain {s : List Char} (h : ∀ c ∈ s, c ≠ '%' ∧ c ≠ '/') : encode s = s := by
  induction s with
  | nil => rfl
  | cons c rest ih =>
      obtain ⟨hpercent, hslash⟩ := h c List.mem_cons_self
      rw [encode_cons_of_ne hpercent hslash, ih fun x hx => h x (List.mem_cons_of_mem _ hx)]

/-- Escaping loses no text. -/
theorem encode_ne_nil {s : List Char} (h : s ≠ []) : encode s ≠ [] := by
  cases s with
  | nil => exact absurd rfl h
  | cons c rest =>
      rw [encode_cons, encodeChar.eq_def]
      split <;> simp

/-- Taking escapes back loses no text. -/
theorem decode_ne_nil {s : List Char} (h : s ≠ []) : decode s ≠ [] := by
  cases s with
  | nil => exact absurd rfl h
  | cons c rest => rw [decode.eq_def]; split <;> simp_all

/-- A written form that begins with another character than the percent sign is that of a text
beginning with the character. -/
theorem eq_cons_of_encode_eq_cons {s t : List Char} {c : Char} (hc : c ≠ '%')
    (h : encode s = c :: t) : ∃ s', s = c :: s' ∧ encode s' = t := by
  cases s with
  | nil => simp at h
  | cons d rest =>
      by_cases hd : d = '%' ∨ d = '/'
      · rcases hd with rfl | rfl
        · exact absurd (List.cons.inj h).1.symm hc
        · exact absurd (List.cons.inj h).1.symm hc
      · rw [not_or] at hd
        rw [encode_cons_of_ne hd.1 hd.2] at h
        obtain ⟨rfl, rfl⟩ := List.cons.inj h
        exact ⟨rest, rfl, rfl⟩

/-- A written form whose value begins with a character that is never escaped begins with it. -/
theorem eq_cons_of_decode_eq_cons {s t : List Char} {c : Char} (hpercent : c ≠ '%')
    (hslash : c ≠ '/') (h : decode s = c :: t) : ∃ s', s = c :: s' ∧ decode s' = t := by
  rw [decode.eq_def] at h
  split at h
  · simp at h
  · exact absurd (List.cons.inj h).1.symm hpercent
  · exact absurd (List.cons.inj h).1.symm hslash
  · exact absurd (List.cons.inj h).1.symm hslash
  · obtain ⟨rfl, rfl⟩ := List.cons.inj h
    exact ⟨_, rfl, rfl⟩

/-! ### Well escaped texts -/

/-- A text is well escaped when it holds no slash and every percent sign in it begins `%25` or
`%2F`. -/
structure WellEscaped (w : List Char) : Prop where
  slash_not_mem : '/' ∉ w
  /-- Behind every percent sign the text goes on with `25` or `2F`. -/
  escapes : ∀ rest, '%' :: rest <:+ w → ['2', '5'] <+: rest ∨ ['2', 'F'] <+: rest

/-- An empty text is well escaped. -/
theorem wellEscaped_nil : WellEscaped [] where
  slash_not_mem := List.not_mem_nil
  escapes _ h := absurd (List.suffix_nil.1 h) (List.cons_ne_nil _ _)

/-- A character in front of a well escaped text leaves it so unless it is a slash, or a percent sign
that begins no escape there. -/
theorem wellEscaped_cons_iff {c : Char} {w : List Char} :
    WellEscaped (c :: w) ↔
      c ≠ '/' ∧ (c = '%' → ['2', '5'] <+: w ∨ ['2', 'F'] <+: w) ∧ WellEscaped w := by
  constructor
  · intro h
    refine ⟨fun hc => h.slash_not_mem (hc ▸ List.mem_cons_self), ?_, ?_, ?_⟩
    · rintro rfl
      exact h.escapes w (List.suffix_refl _)
    · exact fun hmem => h.slash_not_mem (List.mem_cons_of_mem _ hmem)
    · exact fun rest hrest => h.escapes rest (hrest.trans (List.suffix_cons _ _))
  · rintro ⟨hslash, hpercent, hw⟩
    refine ⟨fun hmem => ?_, fun rest hrest => ?_⟩
    · exact (List.mem_cons.1 hmem).elim (fun h => hslash h.symm) hw.slash_not_mem
    · rcases List.suffix_cons_iff.1 hrest with heq | hrest
      · obtain ⟨rfl, rfl⟩ := List.cons.inj heq
        exact hpercent rfl
      · exact hw.escapes rest hrest

/-- An escape in front of a text makes no difference. -/
theorem wellEscaped_escape_iff {digit : Char} (h : digit = '5' ∨ digit = 'F') {w : List Char} :
    WellEscaped ('%' :: '2' :: digit :: w) ↔ WellEscaped w := by
  rcases h with rfl | rfl <;> simp [wellEscaped_cons_iff]

/-! ### Reading and writing again -/

/-- A text that is read and written again comes back exactly when it is well escaped. -/
theorem encode_decode_eq_iff (w : List Char) : encode (decode w) = w ↔ WellEscaped w := by
  induction w using decode.induct with
  | case1 => exact iff_of_true rfl wellEscaped_nil
  | case2 rest ih =>
      rw [decode, encode_percent_cons, wellEscaped_escape_iff (.inl rfl), ← ih]
      simp
  | case3 rest ih =>
      rw [decode, encode_slash_cons, wellEscaped_escape_iff (.inr rfl), ← ih]
      simp
  | case4 rest =>
      -- the lower case escape is written in upper case
      rw [decode, encode_slash_cons, wellEscaped_cons_iff]
      simp
  | case5 c rest hpercent hupper hlower ih =>
      have hdecode : decode (c :: rest) = c :: decode rest := by rw [decode] <;> assumption
      rw [hdecode]
      by_cases hc : c = '%'
      · -- a percent sign that begins no escape is written as one
        subst hc
        rw [encode_percent_cons, wellEscaped_cons_iff]
        refine iff_of_false (fun h => ?_) fun h => ?_
        · exact hpercent _ rfl (List.cons.inj h).2.symm
        · rcases h.2.1 rfl with ⟨behind, rfl⟩ | ⟨behind, rfl⟩
          · exact hpercent behind rfl rfl
          · exact hupper behind rfl rfl
      · by_cases hslash : c = '/'
        · subst hslash
          rw [encode_slash_cons, wellEscaped_cons_iff]
          simp
        · rw [encode_cons_of_ne hc hslash, wellEscaped_cons_iff]
          simp [hc, hslash, ih]

/-- Written forms are well escaped. -/
theorem wellEscaped_encode (s : List Char) : WellEscaped (encode s) :=
  (encode_decode_eq_iff (encode s)).1 (congrArg encode (decode_encode s))

instance (w : List Char) : Decidable (WellEscaped w) :=
  decidable_of_iff (encode (decode w) = w) (encode_decode_eq_iff w)

/-! ### Strings -/

/-- A string is escaped by its characters. -/
theorem toList_encoded (s : String) : (encoded s).toList = encode s.toList :=
  String.toList_ofList

/-- The escapes of a string are taken back by its characters. -/
theorem toList_decoded (s : String) : (decoded s).toList = decode s.toList :=
  String.toList_ofList

/-- Every string is read back from its written form, which is well escaped, and a string that is
read and written again comes back exactly when it is well escaped. -/
theorem written_forms_exact (v w : String) :
    decoded (encoded v) = v ∧ WellEscaped (encoded v).toList ∧
      (encoded (decoded w) = w ↔ WellEscaped w.toList) := by
  have hback : decoded (encoded v) = v := by
    rw [← String.toList_inj, toList_decoded, toList_encoded, decode_encode]
  have hwritten : WellEscaped (encoded v).toList := by
    rw [toList_encoded]
    exact wellEscaped_encode v.toList
  have hagain : encoded (decoded w) = w ↔ WellEscaped w.toList := by
    rw [← String.toList_inj, toList_encoded, toList_decoded]
    exact encode_decode_eq_iff w.toList
  exact ⟨hback, hwritten, hagain⟩

/-- What reading has just made is not read again. -/
example : decoded "%252F" = "%2F" := by decide +kernel

/-- Reading passes over percent signs that begin no escape, also at the end of the text. -/
example : decoded "a%zz%2f%2" = "a%zz/%2" ∧ ¬ WellEscaped "a%zz%2f%2".toList := by decide +kernel

end ConfigBrowser.Route
