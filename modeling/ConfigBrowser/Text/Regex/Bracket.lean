import ConfigBrowser.Text.Regex.Escape
import ConfigBrowser.Text.Regex.Nested

/-!
# Sets in Brackets

Between brackets stand characters, ranges, escapes, sets with a name such as `[:alpha:]` and further
brackets, and the set is all of them together; with a caret in front it is all that they are not.
Dashes in front stand for themselves, as a closing bracket does that is the first of all. Sets are
taken apart by `&&`, `--` and `~~`, which are told from left to right: what is in both, in the first
only, and in one of them only.

In an expression of characters the other case of a letter is not known, so that a set with a member
cannot be read there without regard to case. In an expression of bytes all members have to be ASCII.

## Main results

* `Bracket.contains_whole`: without an operation, the set holds what one of its parts holds.
-/

namespace ConfigBrowser.Text

/-- What makes one set out of two. -/
inductive SetOperation where
  | inter
  | diff
  | symmDiff
deriving DecidableEq, Repr

namespace SetOperation

/-- The set that is made out of two. -/
def apply : SetOperation → CharSet → CharSet → CharSet
  | inter => CharSet.inter
  | diff => CharSet.diff
  | symmDiff => CharSet.symmDiff

end SetOperation

/-- An open bracket, as far as it is read. -/
structure Bracket where
  isNegated : Bool
  /-- The set in front of the last operation, and the operation. -/
  left : Option (Nested CharSet × SetOperation)
  /-- The sets behind it, the last one in front. -/
  items : List (Nested CharSet)
deriving DecidableEq, Repr

namespace Bracket

/-- The bracket with one more set in it. -/
def add (b : Bracket) (s : Nested CharSet) : Bracket := { b with items := s :: b.items }

/-- The set that was read. -/
def whole (b : Bracket) : Nested CharSet :=
  let right := Nested.gather (·.foldl .union .empty) b.items
  match b.left with
  | none => right
  | some (left, operation) => .wrap (operation.apply left.value right.value) [left, right]

/-- The bracket in front of the second set of an operation. -/
def operate (b : Bracket) (operation : SetOperation) : Bracket :=
  { b with left := some (b.whole, operation), items := [] }

/-- The set of a bracket that is closed. -/
def close? (f : Flags) (b : Bracket) : Option (Nested CharSet) :=
  if b.isNegated then
    if f.isUnicode then some (.wrap b.whole.value.compl [b.whole]) else none
  else some (.wrap b.whole.value [b.whole])

/-- The set that stands for itself in a bracket. -/
def item? (f : Flags) (s : CharSet) : Option CharSet :=
  if f.isUnicode then if f.isCaseless then none else some s
  else if s.isAscii then some (if f.isCaseless then s.bothCases else s)
  else none

/-! ### Reading -/

/-- The number of dashes at the start of a text, and what follows them. -/
def readDashes (f : Flags) : Nat → List Char → Nat × List Char
  | fuel + 1, '-' :: rest =>
    let (count, rest) := readDashes f fuel (f.skip rest)
    (count + 1, rest)
  | _, text => (0, text)

/-- A bracket that is opened, and what follows the characters that stand for themselves in front. -/
def open? (f : Flags) (text : List Char) : Option (Bracket × List Char) :=
  let (isNegated, text) :=
    match f.skip text with
    | '^' :: rest => (true, f.skip rest)
    | text => (false, text)
  match readDashes f text.length text with
  | (0, ']' :: rest) => (item? f (.only ']')).map fun s => (⟨isNegated, none, [.flat s]⟩, rest)
  | (0, rest) => some (⟨isNegated, none, []⟩, rest)
  | (count, rest) =>
    (item? f (.only '-')).map fun s => (⟨isNegated, none, .replicate count (.flat s)⟩, rest)

/-- The set of a name between colons, behind an opening bracket, whether a caret is in front of the
name, and what follows. -/
def readNamed? : List Char → Option (Bool × CharSet × List Char)
  | ':' :: rest =>
    let (isNegated, rest) :=
      match rest with
      | '^' :: rest => (true, rest)
      | rest => (false, rest)
    match rest.dropWhile (· ≠ ':') with
    | ':' :: ']' :: behind =>
      (CharSet.ofName? (String.ofList (rest.takeWhile (· ≠ ':')))).map (isNegated, ·, behind)
    | _ => none
  | _ => none

/-- The set of a name in a bracket. -/
def named? (f : Flags) (isNegated : Bool) (s : CharSet) : Option CharSet :=
  if isNegated then if f.isUnicode && !f.isCaseless then some s.compl else none
  else item? f s

/-- Reads what stands for a character or a set. -/
def readAtom (f : Flags) : List Char → Option (Atom × List Char)
  | [] => none
  | '\\' :: rest => readEscape f rest
  | c :: rest => some (.char c, rest)

/-- The set of an atom. -/
def ofAtom? (f : Flags) : Atom → Option CharSet
  | .char c => item? f (.only c)
  | .set s => item? f s
  | .look _ => none

/-- Reads a character, a set or a range. -/
def readItem (f : Flags) (text : List Char) : Option (CharSet × List Char) := do
  let (first, rest) ← readAtom f text
  match f.skip rest with
  | '-' :: behind =>
    if f.peek behind = some ']' ∨ f.peek behind = some '-' then
      return (← ofAtom? f first, '-' :: behind)
    else
      match first, ← readAtom f (f.skip behind) with
      | .char first, (.char last, rest) =>
        if first ≤ last then return (← item? f (.range first last), rest) else none
      | _, _ => none
  | rest => return (← ofAtom? f first, rest)

/-- Reads on in a bracket. `outer` are the brackets around it, and every step takes at least one
character. -/
def readFrom (f : Flags) : Nat → List Bracket → Bracket → List Char →
    Option (Nested CharSet × List Char)
  | 0, _, _, _ => none
  | fuel + 1, outer, b, text =>
    match f.skip text with
    | [] => none
    | '[' :: rest =>
      match readNamed? rest with
      | some (isNegated, s, rest) => do
        readFrom f fuel outer (b.add (.flat (← named? f isNegated s))) rest
      | none => do
        let (inner, rest) ← open? f rest
        readFrom f fuel (b :: outer) inner rest
    | ']' :: rest => do
      let s ← b.close? f
      match outer with
      | [] => return (s, rest)
      | around :: outer => readFrom f fuel outer (around.add s) rest
    | '&' :: '&' :: rest => readFrom f fuel outer (b.operate .inter) rest
    | '-' :: '-' :: rest => readFrom f fuel outer (b.operate .diff) rest
    | '~' :: '~' :: rest => readFrom f fuel outer (b.operate .symmDiff) rest
    | text => do
      let (s, rest) ← readItem f text
      readFrom f fuel outer (b.add (.flat s)) rest

/-- Reads a set behind its opening bracket. -/
def read? (f : Flags) (text : List Char) : Option (Nested CharSet × List Char) := do
  let (b, rest) ← open? f text
  readFrom f (rest.length + 1) [] b rest

/-! ### Laws -/

/-- A union has the characters of its parts. -/
theorem contains_foldl_union (s : CharSet) (sets : List CharSet) (c : Char) :
    (sets.foldl .union s).contains c = (s.contains c || sets.any (·.contains c)) := by
  induction sets generalizing s with
  | nil => simp
  | cons t sets ih => simp [ih, CharSet.contains_union, Bool.or_assoc]

/-- A bracket that was not begun with an operation is the union of its items. -/
theorem contains_whole {b : Bracket} (h : b.left = none) (c : Char) :
    b.whole.value.contains c = b.items.any (·.value.contains c) := by
  have hempty : CharSet.empty.contains c = false := rfl
  simp only [whole, h]
  match b.items with
  | [] => rfl
  | [s] => simp [Nested.gather]
  | s :: t :: rest =>
    simp [Nested.gather, Nested.wrap, contains_foldl_union, CharSet.contains_union, hempty,
      List.any_map, Function.comp_def, Bool.or_assoc]

end Bracket

end ConfigBrowser.Text
