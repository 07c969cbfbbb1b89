import ConfigBrowser.Text.CharSet

/-!
# Regular Expressions

What a regular expression is made of, and the forms in which it is kept: rows and alternatives have
no rows and no alternatives among their parts, neighbouring characters of a row are one text,
alternatives of single characters are one set, and what all alternatives begin with stands in front
of them.

Drawing the common beginning out keeps what can match, but not what is preferred: in `.*a|.*b` the
shortest `.*` with an `a` behind it would come before all with a `b`, in `.*(a|b)` it does not.

## Main results

* `Look.holds_of_holdsAfter`: what the character in front tells is so, whatever comes behind it.
* `Regex.isHollow_eq_false_of_isSolid`: what has a character is not empty.
-/

namespace ConfigBrowser.Text

/-! ### Places in a text -/

/-- What can be asked of a place between two characters. -/
inductive Look where
  /-- Is it the start of the text? -/
  | start
  /-- Is it the end of the text? -/
  | finish
  /-- Is it the start of a line? Lines end with a line feed or, if they are `loose`, with a carriage
  return, a line feed or both. -/
  | lineStart (loose : Bool)
  /-- Is it the end of a line? -/
  | lineEnd (loose : Bool)
  /-- Does a word of ASCII characters begin or end there? -/
  | wordEdge
  /-- Does no word begin or end there? -/
  | noWordEdge
  | wordStart
  | wordEnd
deriving DecidableEq, Repr

namespace Look

/-- Is there a character, and is it one of an ASCII word? -/
def isWord (c : Option Char) : Bool := c.any fun c => c.isAlphanum || c = '_'

/-- Can the answer be told to be yes by the character in front alone? -/
def holdsAfter (before : Option Char) : Look → Bool
  | start => before.isNone
  | lineStart _ => before.all (· = '\n')
  | _ => false

/-- The answer between two characters; there is none in front of the text and none behind it. -/
def holds (before after : Option Char) : Look → Bool
  | start => before.isNone
  | finish => after.isNone
  | lineStart loose =>
    before.all (· = '\n') || (loose && before = some '\r' && after ≠ some '\n')
  | lineEnd loose =>
    if loose then after.all (· = '\r') || (after = some '\n' && before ≠ some '\r')
    else after.all (· = '\n')
  | wordEdge => isWord before != isWord after
  | noWordEdge => isWord before == isWord after
  | wordStart => !isWord before && isWord after
  | wordEnd => isWord before && !isWord after

/-- What the character in front tells alone holds before any other. -/
theorem holds_of_holdsAfter {before : Option Char} {l : Look} (h : l.holdsAfter before = true)
    (after : Option Char) : l.holds before after = true := by
  cases l <;> simp_all [holdsAfter, holds]

end Look

/-! ### Expressions -/

/-- How often something may be repeated. -/
inductive Repetition where
  | optional
  | many
  | atLeastOnce
deriving DecidableEq, Repr

/-- A regular expression. -/
inductive Regex where
  | empty
  /-- Some characters, one after another. -/
  | text (chars : List Char)
  /-- One character of a set. -/
  | one (set : CharSet)
  | look (test : Look)
  /-- An expression in parentheses, which are numbered. -/
  | group (number : Nat) (a : Regex)
  /-- One expression after another. -/
  | both (a b : Regex)
  /-- The first expression or, with less preference, the second. -/
  | either (a b : Regex)
  /-- An expression again and again. A lazy repetition ends as early as it can. -/
  | repeated (count : Repetition) (isLazy : Bool) (a : Regex)
deriving DecidableEq, Repr

namespace Regex

/-- The parts of a row. -/
def factors : Regex → List Regex
  | empty => []
  | both a b => a :: factors b
  | a => [a]

/-- The row of its parts. -/
def ofFactors : List Regex → Regex
  | [] => empty
  | [a] => a
  | a :: rest => both a (ofFactors rest)

/-- The parts of a row with one more in front of them. -/
def push : Regex → List Regex → List Regex
  | text s, text t :: rest => text (s ++ t) :: rest
  | a, rest => a :: rest

/-- One expression after another, without rows inside of the row. -/
def row (parts : List Regex) : Regex := ofFactors ((parts.flatMap factors).foldr push [])

/-- The choices between alternatives. -/
def alternatives : Regex → List Regex
  | either a b => a :: alternatives b
  | a => [a]

/-- The alternatives of given choices. -/
def ofAlternatives : List Regex → Regex
  | [] => one .empty
  | [a] => a
  | a :: rest => either a (ofAlternatives rest)

/-- One character of a set. -/
def ofSet (s : CharSet) : Regex :=
  match s.single? with
  | some c => text [c]
  | none => one s

/-- The set of an expression that is a single character. -/
def character? : Regex → Option CharSet
  | text [c] => some (.only c)
  | _ => none

/-- The set of an expression that is a character of a set. -/
def set? : Regex → Option CharSet
  | one s => some s
  | _ => none

/-- The parts of a row of at least two. -/
def row? : Regex → Option (List Regex)
  | both a b => some (both a b).factors
  | _ => none

/-- What two lists begin with. -/
def commonStart : List Regex → List Regex → List Regex
  | a :: as, b :: bs => if a = b then a :: commonStart as bs else []
  | _, _ => []

/-- The alternatives as a single set, if they can be one. -/
def merged? (choices : List Regex) : Option Regex :=
  match choices.mapM character? <|> choices.mapM set? with
  | some sets => some (ofSet (sets.foldl .union .empty))
  | none => none

/-- A choice between expressions whose common beginning, if any, stays where it is. -/
def choice (parts : List Regex) : Regex :=
  match parts.flatMap alternatives with
  | [] => one .empty
  | [a] => a
  | choices => (merged? choices).getD (ofAlternatives choices)

/-- A choice between expressions. -/
def oneOf (parts : List Regex) : Regex :=
  let choices := parts.flatMap alternatives
  match choices.mapM row? with
  | some (first :: second :: rest) =>
    match (second :: rest).foldl commonStart first with
    | [] => choice choices
    | start =>
      let ends := (first :: second :: rest).map fun row => ofFactors (row.drop start.length)
      row (start ++ [choice ends])
  | _ => choice choices

/-- Can the expression match nothing but the empty text? -/
def isHollow : Regex → Bool
  | empty => true
  | text _ => false
  | one _ => false
  | look _ => true
  | group _ a => isHollow a
  | both a b => isHollow a && isHollow b
  | either a b => isHollow a && isHollow b
  | repeated .optional _ a => isHollow a
  | repeated .. => false

/-- Does all that the expression matches have at least one character? -/
def isSolid : Regex → Bool
  | empty => false
  | text _ => true
  | one _ => true
  | look _ => false
  | group _ a => isSolid a
  | both a b => isSolid a || isSolid b
  | either a b => isSolid a && isSolid b
  | repeated .atLeastOnce _ a => isSolid a
  | repeated .. => false

/-- An expression repeated. What only matches the empty text is not repeated more than once. -/
def again (count : Repetition) (isLazy : Bool) (a : Regex) : Regex :=
  if a.isHollow then
    match count with
    | .atLeastOnce => a
    | .optional | .many => repeated .optional isLazy a
  else repeated count isLazy a

/-! ### Laws -/

/-- A solid expression is not hollow. -/
theorem isHollow_eq_false_of_isSolid {a : Regex} (h : a.isSolid = true) : a.isHollow = false := by
  induction a with
  | empty | text | one | look => simp_all [isSolid, isHollow]
  | group _ a ih => exact ih h
  | both a b iha ihb =>
    rw [isSolid, Bool.or_eq_true] at h
    rw [isHollow, Bool.and_eq_false_iff]
    exact h.imp iha ihb
  | either a b iha ihb =>
    rw [isSolid, Bool.and_eq_true] at h
    rw [isHollow, Bool.and_eq_false_iff]
    exact .inl (iha h.1)
  | repeated count isLazy a ih => cases count <;> simp_all [isSolid, isHollow]

end Regex

end ConfigBrowser.Text
