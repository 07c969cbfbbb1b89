/-!
# Escaping Pieces of a Path

A value inside a path writes the percent sign and the slash as `%25` and `%2F`, so that cutting a
path at its slashes never cuts a value. Reading also takes the lower case `%2f`; every other percent
sign stands for itself.

## Main results

* `decode_encode`: a value is read back from its written form.
* `slash_not_mem_encode`: the written form holds no slash.
-/

namespace ConfigBrowser.Route

/-- The written form of one character. -/
def encodeChar : Char → List Char
  | '%' => ['%', '2', '5']
  | '/' => ['%', '2', 'F']
  | c => [c]

/-- The written form of a value. -/
def encode (s : List Char) : List Char := s.flatMap encodeChar

/-- The value of a written form. -/
def decode : List Char → List Char
  | [] => []
  | '%' :: '2' :: '5' :: rest => '%' :: decode rest
  | '%' :: '2' :: 'F' :: rest => '/' :: decode rest
  | '%' :: '2' :: 'f' :: rest => '/' :: decode rest
  | c :: rest => c :: decode rest

/-- The written form of a string. -/
def encoded (s : String) : String := String.ofList (encode s.toList)

/-- The string of a written form. -/
def decoded (s : String) : String := String.ofList (decode s.toList)

/-! ### Laws -/

/-- A text is escaped character by character. -/
theorem encode_cons (c : Char) (s : List Char) : encode (c :: s) = encodeChar c ++ encode s := by
  simp [encode]

/-- Only a percent sign and a slash are escaped. -/
theorem encodeChar_of_ne {c : Char} (hpercent : c ≠ '%') (hslash : c ≠ '/') :
    encodeChar c = [c] := by
  rw [encodeChar.eq_def]
  split <;> simp_all

/-- A character other than a percent sign stands for itself. -/
theorem decode_cons_of_ne {c : Char} (h : c ≠ '%') (s : List Char) :
    decode (c :: s) = c :: decode s := by
  rw [decode] <;> intros <;> simp_all

/-- What is escaped is got back. -/
theorem decode_encode (s : List Char) : decode (encode s) = s := by
  induction s with
  | nil => rfl
  | cons c rest ih =>
    rw [encode_cons]
    by_cases hpercent : c = '%'
    · subst hpercent
      simp [encodeChar, decode, ih]
    · by_cases hslash : c = '/'
      · subst hslash
        simp [encodeChar, decode, ih]
      · simp [encodeChar_of_ne hpercent hslash, decode_cons_of_ne hpercent, ih]

/-- No slash is left by escaping. -/
theorem slash_not_mem_encode (s : List Char) : '/' ∉ encode s := by
  simp only [encode, List.mem_flatMap, not_exists, not_and]
  intro c _
  rw [encodeChar.eq_def]
  split
  · decide
  · decide
  · next hslash =>
    simpa using fun h => hslash h.symm

end ConfigBrowser.Route
