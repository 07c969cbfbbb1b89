import ConfigBrowser.Json.Number

/-!
# Passing over JSON Values

A value that nobody asks for is passed over: its text has to follow the grammar, but it need not
stand for anything. Numbers may be out of range, the escapes of a string may be halves of pairs,
and arrays and objects may nest to any depth.

## Main results

* `passString_append`: plain characters are passed over.
-/

namespace ConfigBrowser.Json

/-- Is the character one that may stand between tokens? -/
def isGap (c : Char) : Bool := c = ' ' || c = '\n' || c = '\t' || c = '\r'

/-- The text after the gap at its start. -/
def skipGap (s : List Char) : List Char := s.dropWhile isGap

/-- The character that a letter stands for after a backslash. -/
def shortEscape : Char → Option Char
  | '"' => some '"'
  | '\\' => some '\\'
  | '/' => some '/'
  | 'b' => some '\x08'
  | 'f' => some '\x0c'
  | 'n' => some '\n'
  | 'r' => some '\r'
  | 't' => some '\t'
  | _ => none

/-- Passes over the characters of a string and its closing quote. -/
def passString : List Char → Option (List Char)
  | [] => none
  | '"' :: rest => some rest
  | '\\' :: 'u' :: a :: b :: c :: d :: rest =>
    if [a, b, c, d].all fun digit => (Text.hexValue digit).isSome then passString rest else none
  | '\\' :: c :: rest => if (shortEscape c).isSome then passString rest else none
  | c :: rest => if c < ' ' ∨ c = '\\' then none else passString rest

/-- Passes over the power of ten of a number, if it has one. -/
def passScale : List Char → Option (List Char)
  | 'e' :: rest | 'E' :: rest => (readExponent rest).map (·.2)
  | s => some s

/-- Passes over a number without its sign. -/
def passMagnitude (s : List Char) : Option (List Char) :=
  match spanDigits s with
  | ([], _) => none
  | (0 :: _ :: _, _) => none
  | (_, '.' :: after) =>
    match spanDigits after with
    | ([], _) => none
    | (_, after) => passScale after
  | (_, rest) => passScale rest

/-- Passes over a number. -/
def passNumber : List Char → Option (List Char)
  | '-' :: rest => passMagnitude rest
  | s => passMagnitude s

/-- Passes over a fixed word. -/
def passWord (word s : List Char) : Option (List Char) :=
  if word.isPrefixOf s then some (s.drop word.length) else none

/-- Passes over a gap and the key of a member, up to its value. -/
def passKey (s : List Char) : Option (List Char) :=
  match skipGap s with
  | '"' :: rest =>
    match (passString rest).map skipGap with
    | some (':' :: rest) => some rest
    | _ => none
  | _ => none

/-- What a value stands in. -/
inductive Frame where
  | array
  | object
deriving DecidableEq, Repr

/-- What comes next in a text. -/
inductive Due where
  | value
  /-- A comma or a closing bracket, after a value; the end, if nothing is open. -/
  | separator
deriving DecidableEq, Repr

/-- Passes over what is due and all that follows until nothing is open. `fuel` bounds the number of
steps. -/
def pass (fuel : Nat) (due : Due) (opened : List Frame) (s : List Char) : Option (List Char) :=
  match fuel with
  | 0 => none
  | fuel + 1 =>
    match due with
    | .value =>
      match skipGap s with
      | 'n' :: rest => (passWord ['u', 'l', 'l'] rest).bind (pass fuel .separator opened)
      | 't' :: rest => (passWord ['r', 'u', 'e'] rest).bind (pass fuel .separator opened)
      | 'f' :: rest => (passWord ['a', 'l', 's', 'e'] rest).bind (pass fuel .separator opened)
      | '"' :: rest => (passString rest).bind (pass fuel .separator opened)
      | '[' :: rest =>
        match skipGap rest with
        | ']' :: rest => pass fuel .separator opened rest
        | rest => pass fuel .value (.array :: opened) rest
      | '{' :: rest =>
        match skipGap rest with
        | '}' :: rest => pass fuel .separator opened rest
        | rest => (passKey rest).bind (pass fuel .value (.object :: opened))
      | s => (passNumber s).bind (pass fuel .separator opened)
    | .separator =>
      match opened with
      | [] => some s
      | .array :: outer =>
        match skipGap s with
        | ',' :: rest => pass fuel .value opened rest
        | ']' :: rest => pass fuel .separator outer rest
        | _ => none
      | .object :: outer =>
        match skipGap s with
        | ',' :: rest => (passKey rest).bind (pass fuel .value opened)
        | '}' :: rest => pass fuel .separator outer rest
        | _ => none

/-- Passes over the value at the start of a text. -/
def passValue (s : List Char) : Option (List Char) := pass (2 * s.length + 2) .value [] s

/-- Plain characters are passed, and the quote behind them. -/
theorem passString_append {plain : List Char} (h : ∀ c ∈ plain, ' ' ≤ c ∧ c ≠ '"' ∧ c ≠ '\\')
    (rest : List Char) : passString (plain ++ '"' :: rest) = some rest := by
  induction plain with
  | nil => simp [passString]
  | cons c plain ih =>
    obtain ⟨hle, hquote, hslash⟩ := h c List.mem_cons_self
    have hlt : ¬c < ' ' := Char.not_lt.2 hle
    rw [List.cons_append, passString]
    · simp [hlt, hslash, ih fun x hx => h x (List.mem_cons_of_mem _ hx)]
    · exact hquote
    all_goals intros; simp_all

end ConfigBrowser.Json
