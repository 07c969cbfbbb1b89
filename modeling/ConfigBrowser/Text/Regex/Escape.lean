import ConfigBrowser.Text.Digits
import ConfigBrowser.Text.Regex.Basic
import ConfigBrowser.Text.Regex.Flags

/-!
# Escapes of Regular Expressions

What a backslash and the characters behind it stand for. The classes and the edges of words are
those of ASCII, and can only be read in an expression of bytes, where a class is not allowed to hold
parts of other characters: so there is no complement of a class.

## Main results

* `readEscape_of_punctuation`: punctuation stands for itself.
-/

namespace ConfigBrowser.Text

/-- What stands for a character or a place. -/
inductive Atom where
  | char (c : Char)
  | set (s : CharSet)
  | look (test : Look)
deriving DecidableEq, Repr

/-- Reads a character by its code point, which has a fixed number of hexadecimal digits. -/
def readCodePoint (f : Flags) (value : Nat) : Nat → List Char → Option (Char × List Char)
  | 0, text =>
    let c := Char.ofNat value
    if c.toNat = value then some (c, text) else none
  | count + 1, text =>
    match f.skip text with
    | [] => none
    | c :: rest => (hexValue c).bind fun digit => readCodePoint f (16 * value + digit) count rest

/-- Reads a character by two digits, which make a byte in an expression of bytes. -/
def readByte (f : Flags) (text : List Char) : Option (Char × List Char) :=
  (readCodePoint f 0 2 text).filter fun (c, _) => f.isUnicode || c.toNat < 0x80

/-- The character that a letter stands for. -/
def controls : List (Char × Char) :=
  [('a', '\x07'), ('f', '\x0c'), ('t', '\t'), ('n', '\n'), ('r', '\r'), ('v', '\x0b')]

/-- The name of the class that a letter stands for. -/
def classes : List (Char × String) := [('d', "digit"), ('s', "space"), ('w', "word")]

/-- The question that a letter or a bracket stands for in an expression of bytes. -/
def edges : List (Char × Look) :=
  [('b', .wordEdge), ('B', .noWordEdge), ('<', .wordStart), ('>', .wordEnd)]

/-- What a single character behind a backslash stands for. -/
def ofEscaped (f : Flags) (c : Char) : Option Atom :=
  if c = 'A' then some (.look .start)
  else if c = 'z' then some (.look .finish)
  else
    match controls.lookup c, classes.lookup c, edges.lookup c with
    | some control, _, _ => some (.char control)
    | _, some name, _ => if f.isUnicode then none else (CharSet.ofName? name).map .set
    | _, _, some test => if f.isUnicode then none else some (.look test)
    | none, none, none => if c.toNat < 0x80 ∧ !c.isAlphanum then some (.char c) else none

/-- Reads what is behind a backslash. -/
def readEscape (f : Flags) : List Char → Option (Atom × List Char)
  | [] => none
  | 'x' :: rest => (readByte f rest).map fun (c, rest) => (.char c, rest)
  | 'u' :: rest => (readCodePoint f 0 4 rest).map fun (c, rest) => (.char c, rest)
  | 'U' :: rest => (readCodePoint f 0 8 rest).map fun (c, rest) => (.char c, rest)
  | c :: rest => (ofEscaped f c).map (·, rest)

/-- Escaped punctuation stands for itself, angle brackets apart. -/
theorem readEscape_of_punctuation (f : Flags) {c : Char} (hascii : c.toNat < 0x80)
    (hplain : c.isAlphanum = false) (hless : c ≠ '<') (hgreater : c ≠ '>') (rest : List Char) :
    readEscape f (c :: rest) = some (.char c, rest) := by
  have hne : ∀ d : Char, d.isAlphanum = true → c ≠ d := by
    rintro d hd rfl
    simp [hplain] at hd
  have hnone {α : Type} {table : List (Char × α)} (h : ∀ p ∈ table, c ≠ p.1) :
      table.lookup c = none :=
    List.lookup_eq_none_iff.2 fun p hp => by simpa using h p hp
  have hcontrol : controls.lookup c = none :=
    hnone fun p hp => hne p.1 ((by decide : ∀ p ∈ controls, p.1.isAlphanum = true) p hp)
  have hclass : classes.lookup c = none :=
    hnone fun p hp => hne p.1 ((by decide : ∀ p ∈ classes, p.1.isAlphanum = true) p hp)
  have hedge : edges.lookup c = none :=
    hnone (by simp [edges, hless, hgreater, hne 'b' rfl, hne 'B' rfl])
  have hescaped : ofEscaped f c = some (.char c) := by
    simp [ofEscaped, hne 'A' rfl, hne 'z' rfl, hcontrol, hclass, hedge, hascii, hplain]
  simp [readEscape, hescaped, hne 'x' rfl, hne 'u' rfl, hne 'U' rfl]

end ConfigBrowser.Text
