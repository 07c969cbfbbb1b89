import ConfigBrowser.Json.Skip

/-!
# Reading JSON Text

A reader of JSON text, `Json.parseAs`, which is told what shape of value it is read for: members
that the shape does not know are passed over, and all else is read strictly. Nothing but gaps may
follow the value, strings hold no control characters and no unpaired surrogates, and arrays and
objects nest at most 127 deep. `Json.parse` reads the whole of a value.

## Main results

* `Json.readChars_append`: plain characters are read as they stand.
-/

namespace ConfigBrowser.Json

/-- What is wanted of a value. -/
inductive Shape where
  /-- All of it. -/
  | whole
  /-- The members with these keys, each in its shape. An array has them in this order. -/
  | record (known : List (String × Shape))
  /-- The items of an array, all in one shape. -/
  | list (item : Shape)
  /-- The values of an object with arbitrary keys, all in one shape. -/
  | map (value : Shape)

namespace Shape

/-- The shape of a record whose members are wanted whole. -/
def fields (known : List String) : Shape := record (known.map fun key => (key, whole))

/-- The shape of the member with a key, if it is wanted. -/
def member? (key : String) : Shape → Option Shape
  | record known => known.lookup key
  | map value => some value
  | whole | list _ => some whole

/-- The shapes of the first item of an array and of the array without it. -/
def uncons : Shape → Shape × Shape
  | record ((_, first) :: rest) => (first, record rest)
  | list item => (item, list item)
  | record [] | whole | map _ => (whole, whole)

end Shape

/-- Arrays and objects nest less than this deep. -/
def depthLimit : Nat := 128

/-- The 16-bit unit that four hexadecimal digits stand for. -/
def unitOf (a b c d : Char) : Option Nat := do
  let a ← Text.hexValue a
  let b ← Text.hexValue b
  let c ← Text.hexValue c
  let d ← Text.hexValue d
  return ((a * 16 + b) * 16 + c) * 16 + d

/-- Is the unit the first half of a pair? -/
def isLeading (u : Nat) : Bool := 0xd800 ≤ u && u < 0xdc00

/-- Is the unit the second half of a pair? -/
def isTrailing (u : Nat) : Bool := 0xdc00 ≤ u && u < 0xe000

/-- The character that a pair of units stands for. -/
def ofPair (leading trailing : Nat) : Char :=
  Char.ofNat (0x10000 + (leading - 0xd800) * 0x400 + (trailing - 0xdc00))

/-- Reads the characters of a string up to its closing quote; `done` holds those already read, in
reverse. -/
def readChars (done : List Char) : List Char → Option (List Char × List Char)
  | [] => none
  | '"' :: rest => some (done.reverse, rest)
  | '\\' :: 'u' :: a :: b :: c :: d :: rest =>
    match unitOf a b c d with
    | none => none
    | some u =>
      if isLeading u then
        match rest with
        | '\\' :: 'u' :: e :: f :: g :: h :: rest =>
          match unitOf e f g h with
          | none => none
          | some v => if isTrailing v then readChars (ofPair u v :: done) rest else none
        | _ => none
      else if isTrailing u then none
      else readChars (Char.ofNat u :: done) rest
  | '\\' :: c :: rest =>
    match shortEscape c with
    | none => none
    | some e => readChars (e :: done) rest
  | c :: rest => if c < ' ' ∨ c = '\\' then none else readChars (c :: done) rest

/-- Reads a string after its opening quote. -/
def readString (s : List Char) : Option (String × List Char) :=
  (readChars [] s).map fun (chars, rest) => (String.ofList chars, rest)

/-- Reads a fixed word. -/
def readWord (word : List Char) (value : Json) (s : List Char) : Option (Json × List Char) :=
  if word.isPrefixOf s then some (value, s.drop word.length) else none

mutual

/-- Reads a value at the start of a text. `depth` is how deep it may nest, and `fuel` bounds the
number of steps. -/
def readValue (fuel depth : Nat) (shape : Shape) (s : List Char) : Option (Json × List Char) :=
  match fuel with
  | 0 => none
  | fuel + 1 =>
    match skipGap s with
    | 'n' :: rest => readWord ['u', 'l', 'l'] .null rest
    | 't' :: rest => readWord ['r', 'u', 'e'] (.bool true) rest
    | 'f' :: rest => readWord ['a', 'l', 's', 'e'] (.bool false) rest
    | '"' :: rest => (readString rest).map fun (text, rest) => (.string text, rest)
    | '[' :: rest =>
      match depth with
      | 0 | 1 => none
      | depth + 1 =>
        match skipGap rest with
        | ']' :: rest => some (.array [], rest)
        | rest =>
          (readItems fuel depth shape rest).map fun (items, rest) => (.array items, rest)
    | '{' :: rest =>
      match depth with
      | 0 | 1 => none
      | depth + 1 =>
        match skipGap rest with
        | '}' :: rest => some (.object [], rest)
        | rest =>
          (readFields fuel depth shape rest).map fun (fields, rest) => (.object fields, rest)
    | s => readNumber s

/-- Reads the items of an array, at least one, and its closing bracket. -/
def readItems (fuel depth : Nat) (shape : Shape) (s : List Char) :
    Option (List Json × List Char) :=
  match fuel with
  | 0 => none
  | fuel + 1 => do
    let (item, rest) ← readValue fuel depth shape.uncons.1 s
    match skipGap rest with
    | ',' :: rest =>
      let (items, rest) ← readItems fuel depth shape.uncons.2 rest
      return (item :: items, rest)
    | ']' :: rest => return ([item], rest)
    | _ => none

/-- Reads the members of an object, at least one, and its closing brace. Only those that are wanted
are kept. -/
def readFields (fuel depth : Nat) (shape : Shape) (s : List Char) :
    Option (List (String × Json) × List Char) :=
  match fuel with
  | 0 => none
  | fuel + 1 =>
    match skipGap s with
    | '"' :: rest => do
      let (key, rest) ← readString rest
      match skipGap rest with
      | ':' :: rest =>
        let (field, rest) ← match shape.member? key with
          | some wanted =>
            (readValue fuel depth wanted rest).map fun (value, rest) => ([(key, value)], rest)
          | none => (passValue rest).map fun rest => ([], rest)
        match skipGap rest with
        | ',' :: rest =>
          let (fields, rest) ← readFields fuel depth shape rest
          return (field ++ fields, rest)
        | '}' :: rest => return (field, rest)
        | _ => none
      | _ => none
    | _ => none

end

/-- The value of a text that holds one value and gaps around it. -/
def parseChars (shape : Shape) (s : List Char) : Option Json := do
  let (value, rest) ← readValue (s.length + 1) depthLimit shape s
  if skipGap rest = [] then return value else none

/-- What is wanted of the value of a JSON text. -/
def parseAs (shape : Shape) (s : String) : Option Json := parseChars shape s.toList

/-- The value of a JSON text. -/
def parse (s : String) : Option Json := parseAs .whole s

/-! ### Plain characters -/

/-- Plain characters are read as they are, up to the quote. -/
theorem readChars_append {plain : List Char} (h : ∀ c ∈ plain, ' ' ≤ c ∧ c ≠ '"' ∧ c ≠ '\\')
    (done rest : List Char) :
    readChars done (plain ++ '"' :: rest) = some (done.reverse ++ plain, rest) := by
  induction plain generalizing done with
  | nil => simp [readChars]
  | cons c plain ih =>
    obtain ⟨hle, hquote, hslash⟩ := h c List.mem_cons_self
    have hlt : ¬c < ' ' := Char.not_lt.2 hle
    rw [List.cons_append, readChars]
    · simp [hlt, hslash, ih fun x hx => h x (List.mem_cons_of_mem _ hx)]
    · exact hquote
    all_goals intros; simp_all

end ConfigBrowser.Json
