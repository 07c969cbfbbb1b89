import ConfigBrowser.Text.Alphanumeric
import ConfigBrowser.Text.Regex.Bracket
import ConfigBrowser.Text.Split

/-!
# Reading Regular Expressions

Characters stand for themselves, but for the dot, sets in brackets, what follows a backslash, groups
in parentheses, alternatives between bars, the repetitions `*`, `+` and `?`, and the caret and the
dollar sign at the ends of the text or of a line. What is written with braces, such as a counted
repetition, cannot be read, nor what looks ahead or behind.

The classes and the cases of all characters are not known, so an expression that asks for them
cannot be read: `\w`, and any letter without regard to case, need an expression of bytes.

## Main results

* `Regex.parse?_text`: letters and digits are read as what they are.
-/

namespace ConfigBrowser.Text

namespace Regex

/-! ### Drafts -/

/-- What stands in a row: a change of flags or an expression. -/
inductive Piece where
  | flags
  | expression (a : Nested Regex)
deriving DecidableEq, Repr

/-- The expression of a piece. -/
def Piece.regex : Piece → Nested Regex
  | flags => .flat empty
  | expression a => a

/-- What stands between two parentheses, as far as it is read. -/
structure Draft where
  /-- The alternatives in front of the last bar, the last one in front. -/
  choices : List (Nested Regex)
  /-- What stands behind it, the last piece in front. -/
  pieces : List Piece
deriving DecidableEq, Repr

namespace Draft

/-- A draft of which nothing is read. -/
def blank : Draft := ⟨[], []⟩

/-- What stands behind the last bar. -/
def last (d : Draft) : Nested Regex := .gather row (d.pieces.reverse.map Piece.regex)

/-- The draft behind one more bar. -/
def alternate (d : Draft) : Draft := ⟨d.last :: d.choices, []⟩

/-- The expression that was read. -/
def done (d : Draft) : Nested Regex := .gather oneOf d.alternate.choices.reverse

/-- The draft with an expression behind it. -/
def add (d : Draft) (a : Nested Regex) : Draft := { d with pieces := .expression a :: d.pieces }

end Draft

/-! ### Readers -/

/-- An open parenthesis. -/
structure Frame where
  /-- What stands in front of it. -/
  around : Draft
  /-- The flags in front of it, which count again behind it. -/
  flags : Flags
  /-- The number of the group, if it has one. -/
  number : Option Nat
deriving DecidableEq, Repr

/-- A reader in the midst of an expression. -/
structure Reader where
  /-- The parentheses that are open, the innermost in front. -/
  outer : List Frame
  draft : Draft
  flags : Flags
  /-- How many groups have a number. -/
  groups : Nat
  /-- The names of groups. -/
  names : List (List Char)
deriving DecidableEq, Repr

namespace Reader

/-- The reader at the start of an expression. -/
def initial : Reader := ⟨[], .blank, .initial, 0, []⟩

/-- The reader behind an expression. -/
def add (r : Reader) (a : Regex) : Reader := { r with draft := r.draft.add (.flat a) }

/-- The expression of a character. -/
def character? (f : Flags) (c : Char) : Option Regex :=
  if f.isCaseless then
    if f.isUnicode then none
    else if c.isAlpha then some (ofSet (CharSet.only c).bothCases)
    else some (text [c])
  else some (text [c])

/-- The expression of a dot. -/
def dot? (f : Flags) : Option Regex :=
  if f.isUnicode then
    if f.dotAll then some (one .all)
    else if f.looseLines then some (one ((CharSet.only '\n').union (.only '\r')).compl)
    else some (one (CharSet.only '\n').compl)
  else none

/-- The expression of an atom. -/
def ofAtom? (f : Flags) : Atom → Option Regex
  | .char c => character? f c
  | .set s => some (ofSet s)
  | .look test => some (look test)

/-- Reads a repetition of the last expression, and what makes it lazy. -/
def readRepetition (r : Reader) (count : Repetition) (rest : List Char) :
    Option (Reader × List Char) :=
  match r.draft.pieces with
  | .expression a :: pieces =>
    let (isLazy, rest) :=
      match rest with
      | '?' :: rest => (!r.flags.isSwapped, rest)
      | rest => (r.flags.isSwapped, rest)
    let piece := Piece.expression (.wrap (again count isLazy a.value) [a])
    some ({ r with draft.pieces := piece :: pieces }, rest)
  | _ => none

/-- The reader behind the parenthesis that opens a group. -/
def enter (r : Reader) (number : Option Nat) (flags : Flags) : Reader :=
  { r with outer := ⟨r.draft, r.flags, number⟩ :: r.outer, draft := .blank, flags }

/-- The reader behind the parenthesis that opens a group with a number. -/
def enterNumbered (r : Reader) : Reader :=
  { r.enter (some (r.groups + 1)) r.flags with groups := r.groups + 1 }

/-- May a group have the name? -/
def isName : List Char → Bool
  | [] => false
  | c :: rest =>
    (c = '_' || isLetter c) &&
      rest.all fun c => c = '_' || c = '.' || c = '[' || c = ']' || isAlphanumeric c

/-- Reads the name of a group, and the angle bracket behind it. No two groups share a name. -/
def readName (r : Reader) (text : List Char) : Option (Reader × List Char) :=
  match cut (· = '>') text with
  | some (name, rest) =>
    if isName name ∧ !r.names.contains name then
      some ({ r.enterNumbered with names := name :: r.names }, rest)
    else none
  | none => none

/-- Reads flags, for the rest of the group or for a group of their own. -/
def readFlags (r : Reader) (text : List Char) : Option (Reader × List Char) :=
  match Flags.readMarks [] text with
  | some (marks, ':', rest) => some (r.enter none (r.flags.turn true marks), rest)
  | some ([], _, _) => none
  | some (marks, _, rest) =>
    let pieces := .flags :: r.draft.pieces
    some ({ r with draft.pieces := pieces, flags := r.flags.turn true marks }, rest)
  | none => none

/-- Reads what follows an opening parenthesis. -/
def readGroup (r : Reader) (text : List Char) : Option (Reader × List Char) :=
  match r.flags.skip text with
  | '?' :: '=' :: _ | '?' :: '!' :: _ | '?' :: '<' :: '=' :: _ | '?' :: '<' :: '!' :: _ => none
  | '?' :: 'P' :: '<' :: rest | '?' :: '<' :: rest => r.readName rest
  | '?' :: rest => r.readFlags rest
  | rest => some (r.enterNumbered, rest)

/-- The reader behind the parenthesis that closes a group. -/
def leave? (r : Reader) : Option Reader :=
  match r.outer with
  | [] => none
  | frame :: outer =>
    let inner := r.draft.done
    let value := frame.number.elim inner.value fun number => group number inner.value
    some { r with outer, draft := frame.around.add (.wrap value [inner]), flags := frame.flags }

/-- Reads one construct. -/
def step (r : Reader) : List Char → Option (Reader × List Char)
  | [] => none
  | '(' :: rest => r.readGroup rest
  | ')' :: rest => r.leave?.map (·, rest)
  | '|' :: rest => some ({ r with draft := r.draft.alternate }, rest)
  | '[' :: rest => do
    let (s, rest) ← Bracket.read? r.flags rest
    return ({ r with draft := r.draft.add ⟨ofSet s.value, s.depth⟩ }, rest)
  | '{' :: _ => none
  | '*' :: rest => r.readRepetition .many rest
  | '+' :: rest => r.readRepetition .atLeastOnce rest
  | '?' :: rest => r.readRepetition .optional rest
  | '\\' :: rest => do
    let (atom, rest) ← readEscape r.flags rest
    return (r.add (← ofAtom? r.flags atom), rest)
  | '.' :: rest => do return (r.add (← dot? r.flags), rest)
  | '^' :: rest =>
    some (r.add (look (if r.flags.byLines then .lineStart r.flags.looseLines else .start)), rest)
  | '$' :: rest =>
    some (r.add (look (if r.flags.byLines then .lineEnd r.flags.looseLines else .finish)), rest)
  | c :: rest => do return (r.add (← character? r.flags c), rest)

/-- How deep an expression may be nested. -/
def maxDepth : Nat := 250

/-- The expression that was read, if no group is open and it is not nested too deeply. -/
def done? (r : Reader) : Option Regex :=
  if r.outer = [] ∧ r.draft.done.depth ≤ maxDepth then some r.draft.done.value else none

/-- Reads on to the end. Every step takes at least one character. -/
def readFrom : Nat → Reader → List Char → Option Regex
  | 0, _, _ => none
  | fuel + 1, r, s =>
    match r.flags.skip s with
    | [] => r.done?
    | c :: rest => do
      let (r, rest) ← r.step (c :: rest)
      readFrom fuel r rest

end Reader

/-- The expression of a text. -/
def parse? (text : List Char) : Option Regex := Reader.initial.readFrom (text.length + 1) text

/-! ### Laws -/

/-- Characters that are pushed one behind the other become one text. -/
theorem foldr_push_text (s : List Char) (hne : s ≠ []) :
    (s.map fun c => text [c]).foldr push [] = [text s] := by
  induction s with
  | nil => exact absurd rfl hne
  | cons c rest ih =>
    cases rest with
    | nil => rfl
    | cons d rest =>
      rw [List.map_cons, List.foldr_cons, ih (by simp)]
      rfl

/-- A row of characters is one text. -/
theorem row_text (s : List Char) (hne : s ≠ []) : row (s.map fun c => text [c]) = text s := by
  have hflat : (s.map fun c => text [c]).flatMap factors = s.map fun c => text [c] := by
    rw [List.flatMap_map, List.map_eq_flatMap]
    rfl
  rw [row, hflat, foldr_push_text s hne]
  rfl

namespace Reader

/-- The reader that has read some characters, the last one in front. -/
def ofChars (s : List Char) : Reader :=
  { initial with draft := ⟨[], s.map fun c => .expression (.flat (text [c]))⟩ }

/-- A letter or a digit is read as itself. -/
theorem step_ofChars (s : List Char) {c : Char} (h : c.isAlphanum = true) (rest : List Char) :
    (ofChars s).step (c :: rest) = some (ofChars (c :: s), rest) := by
  have hne : ∀ d : Char, d.isAlphanum = false → c ≠ d := by
    rintro d hd rfl
    simp [h] at hd
  simp [step, hne '(' rfl, hne ')' rfl, hne '|' rfl, hne '[' rfl, hne '\x7b' rfl, hne '*' rfl,
    hne '+' rfl, hne '?' rfl, hne '\\' rfl, hne '.' rfl, hne '^' rfl, hne '$' rfl,
    ofChars, character?, initial, Flags.initial, add, Draft.add]

/-- Letters and digits are read to the end. -/
theorem readFrom_ofChars (fuel : Nat) (s rest : List Char) (hfuel : rest.length < fuel)
    (h : ∀ c ∈ rest, c.isAlphanum = true) :
    (ofChars s).readFrom fuel rest = (ofChars (rest.reverse ++ s)).done? := by
  induction rest generalizing fuel s with
  | nil =>
    obtain ⟨fuel, rfl⟩ := Nat.exists_eq_succ_of_ne_zero (Nat.ne_of_gt hfuel)
    rfl
  | cons c rest ih =>
    obtain ⟨fuel, rfl⟩ := Nat.exists_eq_succ_of_ne_zero (Nat.ne_of_gt (Nat.zero_lt_of_lt hfuel))
    have hstep := step_ofChars s (h c List.mem_cons_self) rest
    have hrec := ih fuel (c :: s) (by simpa using hfuel) fun d hd => h d (List.mem_cons_of_mem c hd)
    rw [readFrom, Flags.skip_eq_self (by rfl)]
    simp only [hstep, Option.bind_eq_bind, Option.bind_some, hrec]
    simp

end Reader

/-- A text of letters and digits is a pattern for itself. -/
theorem parse?_text {s : List Char} (hne : s ≠ []) (h : ∀ c ∈ s, c.isAlphanum = true) :
    parse? s = some (text s) := by
  let pieces := (s.map fun c => text [c]).map Nested.flat
  have hdone : (Reader.ofChars s.reverse).draft.done = .gather row pieces := by
    simp [Reader.ofChars, Draft.done, Draft.alternate, Draft.last, Nested.gather, pieces,
      Piece.regex, Function.comp_def]
  have hdepth : (Nested.gather row pieces).depth ≤ 1 := Nested.depth_gather_flat row _
  have hvalue : (Nested.gather row pieces).value = text s := by
    have hrow : ∀ a ∈ s.map fun c => text [c], row [a] = a := by
      simp [row, factors, push, ofFactors]
    rw [Nested.value_gather_flat hrow, row_text s hne]
  have hread := Reader.readFrom_ofChars (s.length + 1) [] s (by simp) h
  rw [List.append_nil] at hread
  refine hread.trans ?_
  rw [Reader.done?, hdone, if_pos ⟨rfl, Nat.le_trans hdepth (by decide)⟩, hvalue]

end Regex

end ConfigBrowser.Text
