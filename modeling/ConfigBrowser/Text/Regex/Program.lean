import ConfigBrowser.Text.Regex.Basic

/-!
# Matching

An expression is matched by a program: a list of instructions that name each other by their numbers.
Running it keeps the instructions that wait for the next character, in the order of preference: an
earlier alternative comes before a later one and, unless a repetition is lazy, going on before
stopping. Each instruction waits once, for the first of the ways that lead to it.

A match may begin anywhere in the text. Once one way has matched, all ways behind it are given up,
and no further match begins; what is asked is whether a way that is left has matched at the end of
the text. So `ab|b` matches `aab`, but `aa` does not match `aaa`.

## Main results

* `Program.mem_visit`: what waits is not lost on the way to further instructions.
* `Program.run_nil`: nothing matches once nothing waits and no match may begin.
-/

namespace ConfigBrowser.Text

/-- An instruction of a program. -/
inductive Instruction where
  /-- The expression has matched. -/
  | accept
  /-- Goes on behind a character of a set. -/
  | one (set : CharSet) (next : Nat)
  /-- Goes on if the place is right. -/
  | look (test : Look) (next : Nat)
  /-- Goes on in two ways, the first of which is preferred. -/
  | fork (first second : Nat)
deriving DecidableEq, Repr

namespace Instruction

/-- The fork between going on with a repetition and ending it. -/
def loop (isLazy : Bool) (body next : Nat) : Instruction :=
  if isLazy then fork next body else fork body next

/-- Does the instruction only lead to other ones, whatever is in the text? -/
def isFork : Instruction → Bool
  | fork .. => true
  | _ => false

end Instruction

/-- A program. -/
structure Program where
  code : Array Instruction
  /-- The number of the first instruction. -/
  entry : Nat
deriving DecidableEq, Repr

namespace Program

/-! ### Writing programs -/

/-- The program with one more instruction, which is the first one. -/
def add (p : Program) (i : Instruction) : Program := ⟨p.code.push i, p.code.size⟩

/-- The program of an expression in front of a program that goes on behind it. -/
def compile (p : Program) : Regex → Program
  | .empty => p
  | .text chars => chars.foldr (fun c p => p.add (.one (.only c) p.entry)) p
  | .one set => p.add (.one set p.entry)
  | .look test => p.add (.look test p.entry)
  | .group _ a => compile p a
  | .both a b => compile (compile p b) a
  | .either a b =>
    let first := compile p a
    let second := compile ⟨first.code, p.entry⟩ b
    second.add (.fork first.entry second.entry)
  | .repeated .optional isLazy a =>
    let body := compile p a
    body.add (.loop isLazy body.entry p.entry)
  | .repeated .many isLazy a =>
    let body := compile (p.add .accept) a
    let loop := Instruction.loop isLazy body.entry p.entry
    let code := body.code.setIfInBounds p.code.size loop
    if a.isSolid then ⟨code, p.code.size⟩ else add ⟨code, body.entry⟩ loop
  | .repeated .atLeastOnce isLazy a =>
    let body := compile (p.add .accept) a
    let loop := Instruction.loop isLazy body.entry p.entry
    ⟨body.code.setIfInBounds p.code.size loop, body.entry⟩

/-- The program of an expression. -/
def ofRegex (a : Regex) : Program := compile ⟨#[.accept], 0⟩ a

/-! ### Running programs -/

/-- The instructions to which one leads where the given questions have the answer yes, behind those
that were found before. No way is longer than `fuel`. -/
def visit (p : Program) (yes : Look → Bool) : Nat → List Nat → Nat → List Nat
  | 0, found, _ => found
  | fuel + 1, found, n =>
    if found.contains n then found
    else
      match p.code[n]? with
      | some (.fork first second) =>
        visit p yes fuel (visit p yes fuel (found ++ [n]) first) second
      | some (.look test next) =>
        if yes test then visit p yes fuel (found ++ [n]) next else found ++ [n]
      | _ => found ++ [n]

/-- The instructions to which some lead, in the order of preference. -/
def reach (p : Program) (yes : Look → Bool) (sources : List Nat) : List Nat :=
  (sources.foldl (visit p yes (p.code.size + 1)) []).filter fun n =>
    !(p.code[n]?).any Instruction.isFork

/-- Does the instruction say that the expression has matched? -/
def isAccept (p : Program) (n : Nat) : Bool := p.code[n]? = some .accept

/-- Does the instruction go on here because of the character behind? -/
def isRoused (p : Program) (before after : Option Char) (n : Nat) : Bool :=
  match p.code[n]? with
  | some (.look test _) => test.holds before after && !test.holdsAfter before
  | _ => false

/-- What waits at a place once the character behind it is known. -/
def settle (p : Program) (before after : Option Char) (waiting : List Nat) : List Nat :=
  if waiting.any (p.isRoused before after) then p.reach (·.holds before after) waiting else waiting

/-- What goes on behind a character. Ways behind one that has matched are given up. -/
def follow (p : Program) (c : Char) : List Nat → List Nat
  | [] => []
  | n :: rest =>
    match p.code[n]? with
    | some .accept => []
    | some (.one set next) => if set.contains c then next :: follow p c rest else follow p c rest
    | _ => follow p c rest

/-- What waits where a match may begin. -/
def opening (p : Program) (before : Option Char) : List Nat :=
  p.reach (·.holdsAfter before) [p.entry]

/-- Can an empty match begin inside of the character, between its bytes? Then no match begins behind
the character. -/
def matchesInside (p : Program) (c : Char) : Bool :=
  c.utf8Size > 1 && (p.settle (some c) (some c) (p.opening (some c))).any p.isAccept

/-- Does the rest of a text match? A match may begin in the rest if the program is `searching`. -/
def run (p : Program) (before : Option Char) (searching : Bool) (waiting : List Nat) :
    List Char → Bool
  | [] => (p.settle before none waiting).any p.isAccept
  | c :: rest =>
    let here := p.settle before (some c) waiting
    let searching := searching && !here.any p.isAccept && !p.matchesInside c
    let sources := p.follow c here ++ if searching then [p.entry] else []
    run p (some c) searching (p.reach (·.holdsAfter (some c)) sources) rest

/-- Does the text match the expression of the program, from anywhere to its end? -/
def accepts (p : Program) (text : List Char) : Bool := p.run none true (p.opening none) text

/-! ### Laws -/

/-- What was found stays found. -/
theorem mem_visit (p : Program) (yes : Look → Bool) (fuel : Nat) {found : List Nat} (n : Nat)
    {x : Nat} (h : x ∈ found) : x ∈ p.visit yes fuel found n := by
  induction fuel generalizing found n with
  | zero => exact h
  | succ fuel ih =>
    have hfound : x ∈ found ++ [n] := List.mem_append_left [n] h
    rw [visit]
    split
    · exact h
    · split
      · exact ih _ (ih _ hfound)
      · split
        · exact ih _ hfound
        · exact hfound
      · exact hfound

/-- Without a place to go on from, nothing is matched. -/
theorem run_nil (p : Program) (before : Option Char) (text : List Char) :
    p.run before false [] text = false := by
  induction text generalizing before with
  | nil => simp [run, settle]
  | cons c rest ih => simpa [run, settle, follow, reach] using ih (some c)

end Program

namespace Regex

/-- Does a text match the expression, from anywhere to its end? -/
def accepts (a : Regex) (text : List Char) : Bool := (Program.ofRegex a).accepts text

end Regex

end ConfigBrowser.Text
