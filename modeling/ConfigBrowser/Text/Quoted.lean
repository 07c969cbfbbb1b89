import ConfigBrowser.Text.Printable

/-!
# Quoted Text

Text between double quotes as diagnostics show it: quotes, backslashes and the common controls
have short escapes, other characters that are not printable are shown by their number in lower
case hexadecimal, and all else stands as it is.

## Main results

* `quote_eq`: the quoted form is the characters' forms, in order, between quotes.
-/

namespace ConfigBrowser.Text

/-- A code point in lower case hexadecimal. -/
def hexadecimal (n : Nat) : List Char := Nat.toDigits 16 n

/-- The form of one character inside quoted text. -/
def quoteChar (c : Char) : List Char :=
  match c with
  | '\x00' => ['\\', '0']
  | '\t' => ['\\', 't']
  | '\r' => ['\\', 'r']
  | '\n' => ['\\', 'n']
  | '"' => ['\\', '"']
  | '\\' => ['\\', '\\']
  | c => if isPrintable c then [c] else ['\\', 'u', '\x7b'] ++ hexadecimal c.toNat ++ ['\x7d']

/-- The quoted form of a text. -/
def quote (s : List Char) : List Char := '"' :: s.flatMap quoteChar ++ ['"']

/-- The quoted form of a string. -/
def quoted (s : String) : String := String.ofList (quote s.toList)

/-- A quoted text is its characters, one by one, between two quotes. -/
theorem quote_eq (s : List Char) : quote s = ['"'] ++ (s.map quoteChar).flatten ++ ['"'] := by
  simp [quote, List.flatMap_def]

end ConfigBrowser.Text
