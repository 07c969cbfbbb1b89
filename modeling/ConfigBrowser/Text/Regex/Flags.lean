import ConfigBrowser.Text.Blank

/-!
# Flags of Regular Expressions

How an expression is read from some place on. Flags are turned on and off by letters between a
question mark and a colon or parenthesis, those behind a dash being turned off: `(?is-u)`.

## Main results

* `Flags.skip_eq_self`: without the flag for it, nothing is skipped.
-/

namespace ConfigBrowser.Text

/-- How an expression is read. -/
structure Flags where
  /-- Is a letter the same as its other case? -/
  isCaseless : Bool
  /-- Are the start and the end of the text those of its lines? -/
  byLines : Bool
  /-- Is a dot any character, including the end of a line? -/
  dotAll : Bool
  /-- Are repetitions lazy unless a question mark follows them? -/
  isSwapped : Bool
  /-- Is the expression one of characters rather than of bytes? -/
  isUnicode : Bool
  /-- Does a carriage return end a line? -/
  looseLines : Bool
  /-- Are blanks and comments skipped? -/
  isSpaced : Bool
deriving DecidableEq, Repr

namespace Flags

/-- The flags at the start of an expression. -/
def initial : Flags := ⟨false, false, false, false, true, false, false⟩

/-- The flags with the one of a letter turned on or off. -/
def set (f : Flags) (isOn : Bool) : Char → Flags
  | 'i' => { f with isCaseless := isOn }
  | 'm' => { f with byLines := isOn }
  | 's' => { f with dotAll := isOn }
  | 'U' => { f with isSwapped := isOn }
  | 'u' => { f with isUnicode := isOn }
  | 'R' => { f with looseLines := isOn }
  | 'x' => { f with isSpaced := isOn }
  | _ => f

/-- The flags changed by letters and a dash. -/
def turn (f : Flags) (isOn : Bool) : List Char → Flags
  | [] => f
  | '-' :: marks => turn f false marks
  | c :: marks => turn (f.set isOn c) isOn marks

/-- The letters and the dash up to a colon or a parenthesis, that character, and what is behind it.
Each stands once, and the dash not at the end. Those in front are given the last one first. -/
def readMarks (before : List Char) : List Char → Option (List Char × Char × List Char)
  | [] => none
  | c :: rest =>
    if c = ':' ∨ c = ')' then
      if before.head? = some '-' then none else some (before.reverse, c, rest)
    else if before.contains c ∨ !"imsUuRx-".toList.contains c then none
    else readMarks (c :: before) rest

/-- A text without the blanks and comments at its start. A comment ends with its line. -/
def skipSpace (inComment : Bool) : List Char → List Char
  | [] => []
  | c :: rest =>
    if inComment then skipSpace (c ≠ '\n') rest
    else if isBlank c then skipSpace false rest
    else if c = '#' then skipSpace true rest
    else c :: rest

/-- A text without what is skipped at its start. -/
def skip (f : Flags) (text : List Char) : List Char :=
  if f.isSpaced then skipSpace false text else text

/-- The next character of a text. The first one of a comment is not skipped. -/
def peek (f : Flags) (text : List Char) : Option Char :=
  if f.isSpaced then
    match text.dropWhile isBlank with
    | '#' :: comment => (comment.dropWhile isBlank).head?
    | rest => rest.head?
  else text.head?

/-- Nothing is skipped where spaces count. -/
theorem skip_eq_self {f : Flags} (h : f.isSpaced = false) (text : List Char) :
    f.skip text = text := by
  simp [skip, h]

end Flags

end ConfigBrowser.Text
