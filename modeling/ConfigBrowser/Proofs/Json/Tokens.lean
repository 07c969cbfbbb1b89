import ConfigBrowser.Json.Reader
import ConfigBrowser.Json.Writer
import Mathlib

/-!
# Reading back Tokens of JSON Text

A gap, a string and an integer are read back from their texts, whatever follows a gap or a string.
What follows an integer must not go on with it.

## Main results

* `Json.skipGap_append`: a gap is skipped.
* `Json.readString_renderString`: a string is read back.
* `Json.readNumber_renderInt`: an integer of 64 bits is read back.
-/

namespace ConfigBrowser.Json

/-! ### Gaps -/

/-- Does a text hold nothing but gaps? -/
def Blank (s : List Char) : Prop := ∀ c ∈ s, isGap c = true

/-- No text is a gap. -/
theorem blank_nil : Blank [] := by simp [Blank]

/-- A new line with its indentation is a gap. -/
theorem blank_newLine (step level : Nat) : Blank (newLine step level) := by
  intro c hc
  rcases List.mem_cons.1 hc with rfl | hc
  · rfl
  · rw [List.eq_of_mem_replicate hc]
    rfl

/-- A gap is skipped. -/
theorem skipGap_append {gap : List Char} (hgap : Blank gap) (s : List Char) :
    skipGap (gap ++ s) = skipGap s := by
  rw [skipGap, List.dropWhile_append_of_pos hgap, skipGap]

/-- A text that begins with no gap is left as it is. -/
theorem skipGap_cons {c : Char} (hc : isGap c = false) (s : List Char) :
    skipGap (c :: s) = c :: s := by
  rw [skipGap, List.dropWhile_cons_of_neg (by simp [hc])]

/-! ### Strings -/

/-- The four digits of a control stand for its number. -/
theorem unitOf_control {n : Nat} (hn : n < 32) :
    unitOf '0' '0' (Nat.digitChar (n / 16)) (Nat.digitChar (n % 16)) = some n := by
  revert n
  decide

/-- A control character is read back from its code. -/
theorem readChars_control {c : Char} (hc : c < ' ') (done rest : List Char) :
    readChars done ('\\' :: 'u' :: '0' :: '0' :: Nat.digitChar (c.toNat / 16) ::
      Nat.digitChar (c.toNat % 16) :: rest) = readChars (c :: done) rest := by
  have hlt : c.toNat < 32 := hc
  have hleading : isLeading c.toNat = false := by
    rw [isLeading, decide_eq_false (by omega), Bool.false_and]
  have htrailing : isTrailing c.toNat = false := by
    rw [isTrailing, decide_eq_false (by omega), Bool.false_and]
  rw [readChars, unitOf_control hlt]
  simp [hleading, htrailing, Char.ofNat_toNat]

/-- A character is read back from its form in a string. -/
theorem readChars_escape (c : Char) (done rest : List Char) :
    readChars done (escape c ++ rest) = readChars (c :: done) rest := by
  rw [escape.eq_def]
  split
  case h_8 hquote hslash _ _ _ _ _ =>
    dsimp only
    split
    · next hcontrol => exact readChars_control hcontrol done rest
    · next hplain =>
      rw [List.singleton_append, readChars]
      · rw [if_neg (not_or.2 ⟨hplain, hslash⟩)]
      · exact hquote
      all_goals intros; simp_all
  all_goals simp [readChars, shortEscape]

/-- Characters are read back from their escapes up to the closing quote. -/
theorem readChars_flatMap_escape (chars done rest : List Char) :
    readChars done (chars.flatMap escape ++ '"' :: rest) = some (done.reverse ++ chars, rest) := by
  induction chars generalizing done with
  | nil => simp [readChars]
  | cons c chars ih =>
      rw [List.flatMap_cons, List.append_assoc, readChars_escape, ih]
      simp

/-- A string is read back. -/
theorem readString_renderString (s : String) (rest : List Char) :
    readString (s.toList.flatMap escape ++ '"' :: rest) = some (s, rest) := by
  rw [readString, readChars_flatMap_escape]
  simp

/-! ### Integers -/

/-- Digits at the start of a text are split off. -/
theorem spanDigits_append {s : List Char} {digits : List Nat}
    (h : s.map Text.digitValue = digits.map some) (rest : List Char) :
    spanDigits (s ++ rest) = (digits ++ (spanDigits rest).1, (spanDigits rest).2) := by
  induction s generalizing digits with
  | nil =>
      obtain rfl : digits = [] := List.map_eq_nil_iff.1 h.symm
      rfl
  | cons c s ih =>
      cases digits with
      | nil => cases h
      | cons d digits =>
          obtain ⟨hc, hs⟩ := List.cons.inj h
          rw [List.cons_append, spanDigits, hc]
          dsimp only
          rw [ih hs]
          rfl

/-- A digit more makes ten times the number and the digit. -/
theorem numeral_append_singleton (digits : List Nat) (d : Nat) :
    numeral (digits ++ [d]) = 10 * numeral digits + d := by
  rw [numeral, List.foldl_append]
  rfl

/-- The digits of a number stand for it, and none of them is a superfluous zero. -/
theorem exists_digits (n : Nat) : ∃ d digits,
    (Text.digitsOf n).map Text.digitValue = (d :: digits).map some ∧
      numeral (d :: digits) = n ∧ (d = 0 → digits = []) := by
  induction n using Nat.strong_induction_on with
  | _ n ih =>
      rcases lt_or_ge n 10 with hlt | hge
      · refine ⟨n, [], ?_, by simp [numeral], fun _ => rfl⟩
        rw [Text.digitsOf, Nat.toDigits_of_lt_base hlt]
        simp [Text.digitValue_digitChar hlt]
      · obtain ⟨d, digits, hvalues, hnumeral, hzero⟩ := ih (n / 10) (by omega)
        have hmod : n % 10 < 10 := Nat.mod_lt n (by decide)
        refine ⟨d, digits ++ [n % 10], ?_, ?_, fun hd => ?_⟩
        · rw [Text.digitsOf, Nat.toDigits_of_base_le (by decide) hge, List.map_append]
          rw [← Text.digitsOf, hvalues]
          simp [Text.digitValue_digitChar hmod]
        · rw [← List.cons_append, numeral_append_singleton, hnumeral]
          omega
        · subst hd
          rw [hzero rfl] at hnumeral
          simp [numeral] at hnumeral
          omega

/-- The text of a number begins with a digit. -/
theorem exists_digitsOf_eq_cons (n : Nat) :
    ∃ c s, Text.digitsOf n = c :: s ∧ (Text.digitValue c).isSome = true := by
  obtain ⟨d, digits, hvalues, -⟩ := exists_digits n
  cases hs : Text.digitsOf n with
  | nil => exact absurd hs (Text.digitsOf_ne_nil n)
  | cons c s =>
      rw [hs, List.map_cons, List.map_cons] at hvalues
      exact ⟨c, s, rfl, Option.isSome_iff_exists.2 ⟨d, (List.cons.inj hvalues).1⟩⟩

/-- Does a text not go on with a number in front of it? -/
def EndsNumber (s : List Char) : Prop :=
  ∀ c ∈ s.head?, Text.digitValue c = none ∧ c ∉ ['.', 'e', 'E']

/-- No digit stands where a number ends. -/
theorem spanDigits_of_endsNumber {s : List Char} (h : EndsNumber s) : spanDigits s = ([], s) := by
  cases s with
  | nil => rfl
  | cons c s =>
      rw [spanDigits, (h c rfl).1]

/-- Digits are read as an integer, unless the text goes on with the number. -/
theorem readMagnitude_digitsOf (negative : Bool) (n : Nat) {rest : List Char}
    (hrest : EndsNumber rest) : ∃ digits, numeral digits = n ∧
      readMagnitude negative (Text.digitsOf n ++ rest) =
        (integer negative digits).map (·, rest) := by
  obtain ⟨d, digits, hvalues, hnumeral, hzero⟩ := exists_digits n
  refine ⟨d :: digits, hnumeral, ?_⟩
  have hspan : spanDigits (Text.digitsOf n ++ rest) = (d :: digits, rest) := by
    rw [spanDigits_append hvalues, spanDigits_of_endsNumber hrest, List.append_nil]
  rw [readMagnitude, hspan]
  split
  · next heq => cases heq
  · next heq =>
    obtain ⟨⟨rfl, rfl⟩, -⟩ := Prod.mk.inj heq
    cases hzero rfl
  · next heq =>
    obtain ⟨rfl, rfl⟩ := Prod.mk.inj heq
    split
    · exact absurd (by decide) (hrest '.' rfl).2
    · exact absurd (by decide) (hrest 'e' rfl).2
    · exact absurd (by decide) (hrest 'E' rfl).2
    · rfl

/-- The text of an integer begins with a minus sign or with a digit. -/
theorem exists_renderInt_eq_cons (i : Int) :
    ∃ c s, renderInt i = c :: s ∧ (c = '-' ∨ (Text.digitValue c).isSome = true) := by
  rw [renderInt]
  split
  · exact ⟨_, _, rfl, .inl rfl⟩
  · obtain ⟨c, s, hs, hdigit⟩ := exists_digitsOf_eq_cons i.natAbs
    exact ⟨c, s, hs, .inr hdigit⟩

/-- An integer of 64 bits, signed or unsigned, is read back. -/
theorem readNumber_renderInt {i : Int} (hlow : -(UInt64.size / 2 : Nat) ≤ i)
    (hhigh : i < UInt64.size) {rest : List Char} (hrest : EndsNumber rest) :
    readNumber (renderInt i ++ rest) = some (.int i, rest) := by
  rw [renderInt]
  split
  · next hneg =>
    obtain ⟨digits, hnumeral, hread⟩ := readMagnitude_digitsOf true i.natAbs hrest
    rw [List.cons_append, readNumber, hread, integer, hnumeral]
    have habs : 0 < i.natAbs ∧ i.natAbs ≤ UInt64.size / 2 := by omega
    have hsign : -(i.natAbs : Int) = i := by omega
    simp only [if_true, if_pos habs, hsign, Option.map_some]
  · next hpos =>
    obtain ⟨digits, hnumeral, hread⟩ := readMagnitude_digitsOf false i.natAbs hrest
    rw [readNumber, hread, integer_of_lt hnumeral (by omega)]
    · rw [Int.natAbs_of_nonneg (by omega), Option.map_some]
    · intro after hminus
      obtain ⟨c, s, hs, hdigit⟩ := exists_digitsOf_eq_cons i.natAbs
      rw [hs, List.cons_append] at hminus
      obtain ⟨rfl, -⟩ := List.cons.inj hminus
      exact absurd hdigit (by decide)

end ConfigBrowser.Json
