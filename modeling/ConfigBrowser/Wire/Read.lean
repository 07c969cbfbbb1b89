import ConfigBrowser.Json.Reader

/-!
# Reading Typed Values from JSON

The rules by which records and variants are read. A record is an object, or an array with its
fields in order. Members that it does not know are passed over; a known member that comes twice, or
one that is missing without a default, spoils it. A variant with fields is a record with one member
more, its tag, which comes first in an array. A variant without fields is its name alone.

There are no conversions: a count is an integer in range, a flag is a boolean and a text is a
string.

## Main results

* `Wire.required_object`: a required member is read where it stands.
-/

namespace ConfigBrowser.Wire

/-- The value of a JSON text that has a shape. -/
def parse {α : Type} (shape : Json.Shape) (read : Json → Option α) (s : String) : Option α :=
  (Json.parseAs shape s).bind read

/-- The members of a record that its type knows. -/
structure Members where
  fields : List (String × Json)
  /-- Did they come in an array, by their places? -/
  positional : Bool

/-- Is there an entry whose key has come before? -/
def hasRepeatedKey : List (String × Json) → Bool
  | [] => false
  | (key, _) :: rest => rest.any (·.1 = key) || hasRepeatedKey rest

/-- The members of a record with the given fields. -/
def members (known : List String) : Json → Option Members
  | .object fields =>
    let fields := fields.filter fun (key, _) => known.contains key
    if hasRepeatedKey fields then none else some ⟨fields, false⟩
  | .array items => if items.length ≤ known.length then some ⟨known.zip items, true⟩ else none
  | _ => none

/-- A member that has to be there. -/
def required {α : Type} (m : Members) (key : String) (read : Json → Option α) : Option α :=
  (m.fields.lookup key).bind read

/-- The member of a record that has no other. -/
def single {α : Type} (key : String) (read : Json → Option α) (j : Json) : Option α :=
  (members [key] j).bind fun m => required m key read

/-- A value that may be `null`. -/
def nullable {α : Type} (read : Json → Option α) : Json → Option (Option α)
  | .null => some none
  | j => (read j).map some

/-- A member that may be absent or `null`. An array has a place for it all the same. -/
def optional {α : Type} (m : Members) (key : String) (read : Json → Option α) :
    Option (Option α) :=
  match m.fields.lookup key with
  | some value => nullable read value
  | none => if m.positional then none else some none

/-- A member that has a value of its own when it is absent. -/
def withDefault {α : Type} (m : Members) (key : String) (default : α) (read : Json → Option α) :
    Option α :=
  match m.fields.lookup key with
  | some value => read value
  | none => some default

/-- A string. -/
def text : Json → Option String
  | .string s => some s
  | _ => none

/-- A boolean. -/
def flag : Json → Option Bool
  | .bool b => some b
  | _ => none

/-- An integer from `low` to `high`. -/
def integer (low high : Int) : Json → Option Int
  | .int i => if low ≤ i ∧ i ≤ high then some i else none
  | _ => none

/-- A count below a bound. -/
def count (bound : Nat) : Json → Option Nat
  | .int (.ofNat n) => if n < bound then some n else none
  | _ => none

/-- Counts of 64 bits stay below this bound. -/
def wordBound : Nat := UInt64.size

/-- An array of items. -/
def list {α : Type} (read : Json → Option α) : Json → Option (List α)
  | .array items => items.mapM read
  | _ => none

/-- An object with arbitrary keys. Of members with equal keys the last one counts. -/
def map {α : Type} (read : Json → Option α) : Json → Option (SortedMap String α)
  | .object fields =>
    (fields.mapM fun field => (read field.2).map fun value => (field.1, value)).map SortedMap.ofList
  | _ => none

/-- A payload, in canonical form. -/
def payload (j : Json) : Option Json := some j.canonical

/-- The name of a variant without fields: a string, or the key of an object that holds `null`.
Inside a tagged value it may hold an empty object as well. -/
def variantName (nested : Bool) : Json → Option String
  | .string s => some s
  | .object [(name, .null)] => some name
  | .object [(name, .object [])] => if nested then some name else none
  | _ => none

/-- A variant without fields. -/
def variant {α : Type} (all : List α) (name : α → String) (nested : Bool) (j : Json) : Option α :=
  (variantName nested j).bind fun s => all.find? (name · = s)

/-- What a tag says: the name of a variant, or, inside a value that is itself tagged, its place
among all variants. -/
def tagName (variants : List String) (nested : Bool) : Json → Option String
  | .string s => some s
  | .int i => if nested && 0 ≤ i then variants[i.toNat]? else none
  | _ => none

/-- The tag of a variant with fields, and the rest of its members. -/
def tagged (tag : String) (variants : List String) (nested : Bool) : Json → Option (String × Json)
  | .object fields =>
    match fields.filter (·.1 = tag) with
    | [(_, name)] =>
      (tagName variants nested name).map (·, .object (fields.filter fun e => e.1 ≠ tag))
    | _ => none
  | .array (name :: items) => (tagName variants nested name).map (·, .array items)
  | _ => none

/-- A tagged variant that has no fields. As an array it holds nothing but its tag. -/
def bare {α : Type} (a : α) : Json → Option α
  | .array (_ :: _) => none
  | _ => some a

/-- A member of a record that is left out where it has no value. -/
def given (key : String) : Option String → List (String × Json)
  | some s => [(key, .string s)]
  | none => []

/-- A required member is read from its value. -/
theorem required_object {α : Type} {m : Members} {key : String} {value : Json}
    (h : m.fields.lookup key = some value) (read : Json → Option α) :
    required m key read = read value := by
  simp [required, h]

end ConfigBrowser.Wire
