/-!
# Blank Characters

The characters that separate words: the Unicode property White_Space. Trimming and splitting
into words follow it, so an ideographic space ends a word and a zero width space does not.

## Main results

* `isBlank_of_isWhitespace`: every character that Lean's own test calls white space is blank.
* `mem_words_ne_nil`: no word is empty.
-/

namespace ConfigBrowser.Text

/-- Does the character have the Unicode property White_Space? -/
def isBlank (c : Char) : Bool :=
  let n := c.toNat
  (0x09 ≤ n && n ≤ 0x0d) || n == 0x20 || n == 0x85 || n == 0xa0 || n == 0x1680 ||
    (0x2000 ≤ n && n ≤ 0x200a) || n == 0x2028 || n == 0x2029 || n == 0x202f || n == 0x205f ||
    n == 0x3000

/-- ASCII whitespace is blank. -/
theorem isBlank_of_isWhitespace {c : Char} (h : c.isWhitespace) : isBlank c := by
  simp only [Char.isWhitespace, Bool.or_eq_true, decide_eq_true_eq] at h
  rcases h with ((rfl | rfl) | rfl) | rfl <;> decide

/-- A text without the blanks at its start. -/
def trimStart (s : List Char) : List Char := s.dropWhile isBlank

/-- A text without the blanks at its end. -/
def trimEnd (s : List Char) : List Char := (s.reverse.dropWhile isBlank).reverse

/-- A text without the blanks at both ends. -/
def trim (s : List Char) : List Char := trimEnd (trimStart s)

/-- A string without the blanks at both ends. -/
def trimmed (s : String) : String := String.ofList (trim s.toList)

/-- Does the string hold nothing but blanks? -/
def isAllBlank (s : String) : Bool := s.toList.all isBlank

/-- Splits off words: `word` is the word being read, in reverse. -/
def wordsFrom (word : List Char) : List Char → List (List Char)
  | [] => if word = [] then [] else [word.reverse]
  | c :: rest =>
    if isBlank c then
      if word = [] then wordsFrom [] rest else word.reverse :: wordsFrom [] rest
    else wordsFrom (c :: word) rest

/-- The maximal runs of characters that are not blank. -/
def words (s : List Char) : List (List Char) := wordsFrom [] s

/-- No word is empty, whatever word was begun. -/
theorem mem_wordsFrom_ne_nil {w word s : List Char} (h : w ∈ wordsFrom word s) : w ≠ [] := by
  induction s generalizing word with
  | nil =>
    by_cases hw : word = [] <;> simp [wordsFrom, hw] at h
    simpa [h] using hw
  | cons c rest ih =>
    rw [wordsFrom] at h
    split at h
    · split at h
      · exact ih h
      · next hw =>
        rcases List.mem_cons.1 h with rfl | h
        · simpa using hw
        · exact ih h
    · exact ih h

/-- No word is empty. -/
theorem mem_words_ne_nil {w s : List Char} (h : w ∈ words s) : w ≠ [] :=
  mem_wordsFrom_ne_nil h

end ConfigBrowser.Text
