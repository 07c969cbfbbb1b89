import ConfigBrowser.SortedMap
import ConfigBrowser.Toml.Text

/-!
# TOML Documents of Settings

A reader of TOML documents in which every line sets a key to a string or an integer, or is blank
but for a comment. Settings know no other values: documents with tables, arrays, dates, floats or
booleans are refused, as are those that set a key twice.

## Main results

* `Toml.dropReturns_of_not_mem`: texts without carriage returns are read as they are.
-/

namespace ConfigBrowser.Toml

/-- The value of a key. -/
inductive Value where
  | string (s : String)
  | integer (i : Int)
deriving DecidableEq, Repr

/-! ### Integers -/

/-- The value of an octal digit. -/
def octalValue (c : Char) : Option Nat := (Text.digitValue c).filter (· < 8)

/-- The value of a binary digit. -/
def binaryValue (c : Char) : Option Nat := (Text.digitValue c).filter (· < 2)

/-- Goes on reading a number in a base. One underscore may stand between two digits. -/
def readMoreDigits (base : Nat) (value : Char → Option Nat) (n : Nat) :
    List Char → Option (Nat × List Char)
  | [] => some (n, [])
  | ['_'] => none
  | '_' :: c :: rest =>
    match value c with
    | some d => readMoreDigits base value (base * n + d) rest
    | none => none
  | c :: rest =>
    match value c with
    | some d => readMoreDigits base value (base * n + d) rest
    | none => some (n, c :: rest)

/-- Reads a number in a base. -/
def readDigits (base : Nat) (value : Char → Option Nat) : List Char → Option (Nat × List Char)
  | [] => none
  | c :: rest => (value c).bind fun d => readMoreDigits base value d rest

/-- Reads a decimal number, which has no superfluous zeros in front. -/
def readDecimal : List Char → Option (Nat × List Char)
  | '0' :: rest => some (0, rest)
  | s => readDigits 10 Text.digitValue s

/-- Reads the size of a number, without its sign. -/
def readMagnitude : List Char → Option (Nat × List Char)
  | '0' :: 'x' :: rest => readDigits 16 Text.hexValue rest
  | '0' :: 'o' :: rest => readDigits 8 octalValue rest
  | '0' :: 'b' :: rest => readDigits 2 binaryValue rest
  | s => readDecimal s

/-- Reads an integer of 64 bits. Only decimal numbers have a sign. -/
def readInteger (s : List Char) : Option (Int × List Char) :=
  let read : Option (Int × List Char) := match s with
    | '-' :: rest => (readDecimal rest).map fun (n, rest) => (-(n : Int), rest)
    | '+' :: rest => (readDecimal rest).map fun (n, rest) => ((n : Int), rest)
    | s => (readMagnitude s).map fun (n, rest) => ((n : Int), rest)
  read.filter fun (i, _) => Int64.minValue.toInt ≤ i && i ≤ Int64.maxValue.toInt

/-! ### Lines -/

/-- Reads a value. -/
def readValue (s : List Char) : Option (Value × List Char) :=
  match s with
  | '"' :: _ | '\'' :: _ =>
    (readString s).map fun (chars, rest) => (.string (String.ofList chars), rest)
  | _ => (readInteger s).map fun (i, rest) => (.integer i, rest)

/-- May the character stand in a key without quotes? -/
def isBare (c : Char) : Bool :=
  ('a' ≤ c && c ≤ 'z') || ('A' ≤ c && c ≤ 'Z') || ('0' ≤ c && c ≤ '9') || c = '-' || c = '_'

/-- Reads a key. -/
def readKey (s : List Char) : Option (List Char × List Char) :=
  match s with
  | '"' :: _ | '\'' :: _ => readShortString s
  | _ =>
    let key := s.takeWhile isBare
    if key = [] then none else some (key, s.dropWhile isBare)

/-- Reads the end of a line: gaps, a comment perhaps, and a line feed or the end of the text. -/
def readLineEnd (s : List Char) : Option (List Char) :=
  match s.dropWhile isGap with
  | [] => some []
  | '\n' :: rest => some rest
  | '#' :: rest =>
    match rest.dropWhile isPlain with
    | [] => some []
    | '\n' :: rest => some rest
    | _ => none
  | _ => none

/-- Reads a key and its value. -/
def readEntry (s : List Char) : Option ((String × Value) × List Char) := do
  let (key, rest) ← readKey s
  match rest.dropWhile isGap with
  | '=' :: rest =>
    let (value, rest) ← readValue (rest.dropWhile isGap)
    let rest ← readLineEnd rest
    return ((String.ofList key, value), rest)
  | _ => none

/-- Reads a line, with the lines that its value goes on in. -/
def readLine (s : List Char) : Option (Option (String × Value) × List Char) :=
  match readLineEnd s with
  | some rest => some (none, rest)
  | none => (readEntry (s.dropWhile isGap)).map fun (entry, rest) => (some entry, rest)

/-- Reads lines to the end of a text. Every line takes something off the text. -/
def readLines (seen : SortedMap String Value) (s : List Char) : Option (SortedMap String Value) :=
  if s = [] then some seen
  else
    match readLine s with
    | none => none
    | some (line, rest) =>
      if rest.length < s.length then
        match line with
        | none => readLines seen rest
        | some (key, value) =>
          if seen.contains key then none else readLines (seen.insert key value) rest
      else none
termination_by s.length

/-! ### Documents -/

/-- The text with each carriage return before a line feed dropped. -/
def dropReturns : List Char → List Char
  | '\r' :: '\n' :: rest => '\n' :: dropReturns rest
  | c :: rest => c :: dropReturns rest
  | [] => []

/-- The text without a byte order mark at its start. -/
def dropMark : List Char → List Char
  | '\ufeff' :: rest => rest
  | s => s

/-- The keys and values of a document. -/
def parse (source : String) : Option (SortedMap String Value) :=
  readLines .empty (dropReturns (dropMark source.toList))

/-- A text without returns stays as it is. -/
theorem dropReturns_of_not_mem {s : List Char} (h : '\r' ∉ s) : dropReturns s = s := by
  fun_induction dropReturns s with
  | case1 => simp at h
  | case2 c rest _ ih => simp [ih fun hmem => h (List.mem_cons_of_mem _ hmem)]
  | case3 => rfl

end ConfigBrowser.Toml
