import ConfigBrowser.Decimal.Shortest
import ConfigBrowser.Json.Basic
import ConfigBrowser.Text.Digits

/-!
# Writing JSON Text

Two layouts of JSON text: compact, without a blank outside strings, and indented, with one item or
member to a line. Both write the members of an object in the order they have.

## Main results

* `Json.escape_of_plain`: characters from the space on, quotes and backslashes apart, stand as
  they are.
-/

namespace ConfigBrowser.Json

/-- The form of one character inside a string. Only quotes, backslashes and controls are
escaped. -/
def escape (c : Char) : List Char :=
  match c with
  | '"' => ['\\', '"']
  | '\\' => ['\\', '\\']
  | '\n' => ['\\', 'n']
  | '\r' => ['\\', 'r']
  | '\t' => ['\\', 't']
  | '\x08' => ['\\', 'b']
  | '\x0c' => ['\\', 'f']
  | c =>
    let (high, low) := (c.toNat / 16, c.toNat % 16)
    if c < ' ' then ['\\', 'u', '0', '0', Nat.digitChar high, Nat.digitChar low] else [c]

/-- Plain characters are written as they are. -/
theorem escape_of_plain {c : Char} (hle : ' ' ≤ c) (hquote : c ≠ '"') (hslash : c ≠ '\\') :
    escape c = [c] := by
  rw [escape.eq_def]
  split <;> simp_all [Char.not_lt.2 hle]

/-- A string as JSON text. -/
def renderString (s : String) : List Char := '"' :: s.toList.flatMap escape ++ ['"']

/-- An integer as JSON text. -/
def renderInt (i : Int) : List Char :=
  if i < 0 then '-' :: Text.digitsOf i.natAbs else Text.digitsOf i.natAbs

/-- A value without items or members as JSON text. -/
def renderScalar : Json → List Char
  | .null => ['n', 'u', 'l', 'l']
  | .bool true => ['t', 'r', 'u', 'e']
  | .bool false => ['f', 'a', 'l', 's', 'e']
  | .int i => renderInt i
  | .float bits => Decimal.renderFloat Decimal.jsonLayout bits
  | .string s => renderString s
  | .array _ => ['[', ']']
  | .object _ => ['{', '}']

/-! ### Compact text -/

mutual

/-- A value as compact JSON text. -/
def render : Json → List Char
  | .array (item :: items) => '[' :: render item ++ renderItems items ++ [']']
  | .object ((key, value) :: fields) =>
    '{' :: renderString key ++ ':' :: render value ++ renderFields fields ++ ['}']
  | j => renderScalar j

/-- Further items, each after a comma. -/
def renderItems : List Json → List Char
  | [] => []
  | item :: items => ',' :: render item ++ renderItems items

/-- Further members, each after a comma. -/
def renderFields : List (String × Json) → List Char
  | [] => []
  | (key, value) :: fields =>
    ',' :: renderString key ++ ':' :: render value ++ renderFields fields

end

/-- The compact JSON text of a value. -/
def compact (j : Json) : String := String.ofList j.render

/-! ### Indented text -/

/-- A new line with the indentation of a level. -/
def newLine (step level : Nat) : List Char := '\n' :: List.replicate (step * level) ' '

mutual

/-- A value as indented JSON text, `step` blanks to the level. -/
def indent (step level : Nat) : Json → List Char
  | .array (item :: items) =>
    '[' :: newLine step (level + 1) ++ indent step (level + 1) item ++
      indentItems step level items ++ newLine step level ++ [']']
  | .object ((key, value) :: fields) =>
    '{' :: newLine step (level + 1) ++ renderString key ++ ':' :: ' ' ::
      indent step (level + 1) value ++ indentFields step level fields ++ newLine step level ++ ['}']
  | j => renderScalar j

/-- Further items, each on a line of its own. -/
def indentItems (step level : Nat) : List Json → List Char
  | [] => []
  | item :: items =>
    ',' :: newLine step (level + 1) ++ indent step (level + 1) item ++ indentItems step level items

/-- Further members, each on a line of its own. -/
def indentFields (step level : Nat) : List (String × Json) → List Char
  | [] => []
  | (key, value) :: fields =>
    ',' :: newLine step (level + 1) ++ renderString key ++ ':' :: ' ' ::
      indent step (level + 1) value ++ indentFields step level fields

end

/-- The indented JSON text of a value, `step` blanks to the level. -/
def pretty (step : Nat) (j : Json) : String := String.ofList (indent step 0 j)

end ConfigBrowser.Json
